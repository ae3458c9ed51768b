import Symbolizer.Proofs.Entry
import Symbolizer.Proofs.Source.Lines
import Symbolizer.Proofs.Table.Runs
import Symbolizer.Proofs.Table.Shape

set_option autoImplicit false

namespace Symbolizer

def Module.entries (part : Module) : List Entry :=
  part.symbols.map fun symbol => ⟨symbol.address, symbol.name, part.name⟩

def Table.entries (table : Table) : List Entry :=
  table.modules.flatMap Module.entries

namespace Module

theorem owner_of_mem_entries (part : Module) (entry : Entry) (member : entry ∈ part.entries) :
    entry.owner = part.name := by
  obtain ⟨symbol, _, rfl⟩ := List.mem_map.1 member
  rfl

theorem entries_ne_nil (part : Module) (occupied : part.symbols ≠ []) : part.entries ≠ [] := by
  simpa [entries] using occupied

theorem ofRun_entries (part : Module) (occupied : part.symbols ≠ []) :
    ofRun part.entries = part := by
  rw [ofRun_of_owner part.entries part.name (part.entries_ne_nil occupied)
    part.owner_of_mem_entries]
  simp [entries, Function.comp_def, Entry.symbol]

end Module

namespace Shaped

variable {options : BuildOptions} {modules : List Module}

theorem maximalRuns_entries (shaped : Shaped options modules) :
    MaximalRuns (Table.entries ⟨modules⟩) (modules.map Module.entries) where
  whole := List.flatMap_def.symm
  occupied := by
    rw [List.forall_mem_map]
    intro part member
    exact part.entries_ne_nil (shaped.occupied part member)
  uniform := by
    rw [List.forall_mem_map]
    intro part _ left leftMember right rightMember
    rw [part.owner_of_mem_entries left leftMember, part.owner_of_mem_entries right rightMember]
  maximal := by
    have apart := shaped.apart
    rw [names, List.isChain_map] at apart
    rw [List.isChain_map]
    apply apart.imp
    intro part next different left leftMember right rightMember
    rwa [part.owner_of_mem_entries left leftMember, next.owner_of_mem_entries right rightMember]

theorem later_named (shaped : Shaped options modules) :
    modules.Pairwise fun _ later => later.name ≠ none := by
  cases modules with
  | nil => exact .nil
  | cons first rest =>
      refine List.pairwise_cons.2 ⟨shaped.rest_named, ?_⟩
      exact List.pairwise_of_forall_mem_list fun _ _ later member => shaped.rest_named later member

theorem entries_pairwise (shaped : Shaped options modules) :
    (Table.entries ⟨modules⟩).Pairwise fun earlier later =>
      earlier.owner ≠ none → later.owner ≠ none := by
  rw [Table.entries, List.pairwise_flatMap]
  constructor
  · intro part _
    apply List.pairwise_of_forall_mem_list
    intro earlier earlierMember later laterMember
    rw [part.owner_of_mem_entries earlier earlierMember,
      part.owner_of_mem_entries later laterMember]
    exact id
  · apply shaped.later_named.imp
    intro _ next named _ _ later member _
    rwa [next.owner_of_mem_entries later member]

end Shaped

namespace Builder

theorem kept_of_parses (builder : Builder) (entries : List Entry) (lines : List Text)
    (parses : List.Forall₂ (fun entry line => Entry.parse? line = some entry) entries lines)
    (takesAll : builder.options.skipBaseKernel = false)
    (unnamedFirst : entries.Pairwise fun earlier later => earlier.owner ≠ none → later.owner ≠ none)
    (unseen : builder.seenNamed = true → ∀ entry ∈ entries, entry.owner ≠ none) :
    builder.kept lines = entries := by
  induction parses generalizing builder with
  | nil => rfl
  | @cons entry line _ _ parsed _ ih =>
      rw [List.pairwise_cons] at unnamedFirst
      have kept : builder.judge line = .kept entry := by
        rw [judge_eq_kept_iff_unfiltered]
        refine ⟨parsed, fun unnamed => ⟨takesAll, ?_⟩⟩
        rw [← Bool.not_eq_true]
        exact fun seen => unseen seen entry (by simp) unnamed
      rw [kept_cons, kept, ih (builder.push line) (by simpa using takesAll) unnamedFirst.2]
      · rfl
      · rw [push_of_kept builder line entry kept, Bool.or_eq_true, Option.isSome_iff_ne_none]
        intro seen later member
        rcases seen with before | here
        · exact unseen before later (List.mem_cons_of_mem _ member)
        · exact unnamedFirst.1 later member here

end Builder

theorem buildLines_of_parses (table : Table) (lines : List Text)
    (shaped : Shaped {} table.modules)
    (ascending : ∀ part ∈ table.modules,
      part.symbols.Pairwise fun left right => left.address ≤ right.address)
    (parses : List.Forall₂ (fun entry line => Entry.parse? line = some entry) table.entries lines) :
    buildLines {} lines = ⟨table, table.symbolCount, table.moduleCount, 0⟩ := by
  have kept : Builder.kept { options := {} } lines = table.entries :=
    Builder.kept_of_parses _ _ _ parses rfl shaped.entries_pairwise (by simp)
  have runs : runs table.entries = table.modules.map Module.entries :=
    ((maximalRuns_iff _ _).1 shaped.maximalRuns_entries).symm
  have modules : (buildLines {} lines).table.modules = table.modules := by
    have each : ∀ part ∈ table.modules,
        ((fun run => (Module.ofRun run).sorted) ∘ Module.entries) part = part := by
      intro part member
      rw [Function.comp_apply, part.ofRun_entries (shaped.occupied part member),
        part.sorted_of_ascending (ascending part member)]
    rw [buildLines_modules, kept, runs, List.map_map, List.map_congr_left each, List.map_id']
  have skipped : (buildLines {} lines).skipped = 0 := by
    have all := buildLines_symbols_add_skipped {} lines
    rw [buildLines_symbols, kept, parses.length_eq] at all
    omega
  have whole : buildLines {} lines =
      ⟨(buildLines {} lines).table, (buildLines {} lines).table.symbolCount,
        (buildLines {} lines).table.moduleCount, (buildLines {} lines).skipped⟩ := rfl
  have same : (buildLines {} lines).table = table := congrArg Table.mk modules
  rw [whole, same, skipped]

def Entry.Lists (entry : Entry) (line : Text) : Prop :=
  ∃ kind blank : Char, kind.toNat < 128 ∧ kind ≠ '[' ∧ kind ≠ '\n' ∧
    (blank = ' ' ∨ blank = '\t') ∧ line = entry.render kind blank

structure Table.Listable (table : Table) : Prop where
  shaped : Shaped {} table.modules
  ascending : ∀ part ∈ table.modules,
    part.symbols.Pairwise fun left right => left.address ≤ right.address
  writable : ∀ entry ∈ table.entries, entry.Writable
  oneLine : ∀ entry ∈ table.entries, '\n' ∉ entry.name ∧ ∀ owner ∈ entry.owner, '\n' ∉ owner

namespace Entry

theorem parse?_of_lists (entry : Entry) (line : Text) (writable : entry.Writable)
    (lists : entry.Lists line) : parse? line = some entry := by
  obtain ⟨kind, blank, ascii, plain, _, blanks, rfl⟩ := lists
  apply parse?_render writable ascii plain
  rcases blanks with rfl | rfl <;> decide

theorem newline_notMem_of_lists (entry : Entry) (line : Text) (name : '\n' ∉ entry.name)
    (owner : ∀ owner ∈ entry.owner, '\n' ∉ owner) (lists : entry.Lists line) : '\n' ∉ line := by
  obtain ⟨kind, blank, _, _, notKind, blanks, rfl⟩ := lists
  have described : '\n' ∉ described kind entry := notMem_described rfl (by decide) notKind name
  have notBlank : '\n' ≠ blank := by rcases blanks with rfl | rfl <;> decide
  cases owned : entry.owner with
  | none => rwa [render_unowned owned]
  | some text => simp [render_owned text owned, described, notBlank, owner text owned]

theorem ne_nil_of_lists (entry : Entry) (line : Text) (lists : entry.Lists line) : line ≠ [] := by
  obtain ⟨kind, blank, _, _, _, _, rfl⟩ := lists
  simp [render]

end Entry

theorem forall_mem_of_lists {entries : List Entry} {lines : List Text} {property : Text → Prop}
    (lists : List.Forall₂ Entry.Lists entries lines)
    (each : ∀ entry ∈ entries, ∀ line, entry.Lists line → property line) :
    ∀ line ∈ lines, property line := by
  induction lists with
  | nil => simp
  | @cons entry line _ _ here _ ih =>
      rw [List.forall_mem_cons] at each ⊢
      exact ⟨each.1 line here, ih each.2⟩

theorem Source.outcome_of_listing (table : Table) (listable : table.Listable) (lines : List Text)
    (lists : List.Forall₂ Entry.Lists table.entries lines) (name : Text) :
    outcome {} ⟨name, .opened { bytes := Text.encode (Text.joinLines lines) }⟩ =
        .ok ⟨table, table.symbolCount, table.moduleCount, 0⟩ ∧
      outcome {} ⟨name, .opened { bytes := Text.encode (Text.joinLines lines).dropLast }⟩ =
        .ok ⟨table, table.symbolCount, table.moduleCount, 0⟩ := by
  have closed : ∀ line ∈ lines, '\n' ∉ line := forall_mem_of_lists lists fun entry member line =>
    entry.newline_notMem_of_lists line (listable.oneLine entry member).1
      (listable.oneLine entry member).2
  have occupied : ∀ line ∈ lines, line ≠ [] :=
    forall_mem_of_lists lists fun entry _ => entry.ne_nil_of_lists
  have parses : List.Forall₂ (fun entry line => Entry.parse? line = some entry)
      table.entries lines := by
    have both := (List.forall₂_and_left table.entries lines).2 ⟨listable.writable, lists⟩
    exact both.imp fun entry line here => entry.parse?_of_lists line here.1 here.2
  have built := buildLines_of_parses table lines listable.shaped listable.ascending parses
  constructor
  · rw [outcome_of_bytes, Text.decode_encode, Text.lines_joinLines lines closed, built]
  · rw [outcome_of_bytes, Text.decode_encode,
      Text.lines_dropLast_joinLines lines closed occupied, built]

def mixedTable : Table :=
  ⟨[⟨none, [⟨[], 0⟩, ⟨['é', ' '], 0xff⟩]⟩, ⟨some [], [⟨['a', ' ', 'b'], 0xffffffffffffffff⟩]⟩,
    ⟨some ['u', '[', 'v'], [⟨['c', ']'], 0x10⟩, ⟨['d'], 0x10⟩]⟩]⟩

def mixedLines : List Text :=
  ["0000000000000000 T ".toList, "00000000000000ff   é ".toList,
    "ffffffffffffffff ] a b\t[]".toList, "0000000000000010 t c] [u[v]".toList,
    "0000000000000010 t d\t[u[v]".toList]

theorem mixedTable_listable : mixedTable.Listable where
  shaped := ⟨by decide, by simp [names, mixedTable], by decide, by decide⟩
  ascending := by decide
  writable := by
    have plain : ∀ entry ∈ mixedTable.entries, '[' ∉ entry.name := by decide
    have closed : ∀ entry ∈ mixedTable.entries, ∀ owner ∈ entry.owner, ']' ∉ owner := by decide
    have visible : ∀ entry ∈ mixedTable.entries, entry.owner.isSome = true →
        entry.name ≠ [] ∧ Text.endsBlank entry.name = false := by decide
    exact fun entry member => ⟨plain entry member, closed entry member, visible entry member⟩
  oneLine := by decide

theorem mixedLines_list : List.Forall₂ Entry.Lists mixedTable.entries mixedLines :=
  .cons ⟨'T', ' ', by decide, by decide, by decide, .inl rfl, by decide⟩ <|
  .cons ⟨' ', ' ', by decide, by decide, by decide, .inl rfl, by decide⟩ <|
  .cons ⟨']', '\t', by decide, by decide, by decide, .inr rfl, by decide⟩ <|
  .cons ⟨'t', ' ', by decide, by decide, by decide, .inl rfl, by decide⟩ <|
  .cons ⟨'t', '\t', by decide, by decide, by decide, .inr rfl, by decide⟩ .nil

theorem Source.outcome_of_mixedLines :
    mixedTable.Listable ∧ List.Forall₂ Entry.Lists mixedTable.entries mixedLines ∧
      outcome {} ⟨[], .opened { bytes := Text.encode (Text.joinLines mixedLines) }⟩ =
        .ok ⟨mixedTable, 5, 3, 0⟩ ∧
      outcome {} ⟨[], .opened { bytes := Text.encode (Text.joinLines mixedLines).dropLast }⟩ =
        .ok ⟨mixedTable, 5, 3, 0⟩ :=
  ⟨mixedTable_listable, mixedLines_list,
    outcome_of_listing mixedTable mixedTable_listable mixedLines mixedLines_list []⟩

end Symbolizer
