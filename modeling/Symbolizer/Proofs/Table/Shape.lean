import Mathlib.Data.List.Chain
import Symbolizer.Proofs.Table.Kept
import Symbolizer.Proofs.Table.Sorted

set_option autoImplicit false

namespace Symbolizer

def names (modules : List Module) : List (Option Text) :=
  modules.map Module.name

def Table.baseSymbols (table : Table) : List Symbol :=
  (table.modules.filter fun part => part.name == none).flatMap Module.symbols

theorem exists_named_iff (modules : List Module) :
    (∃ name, some name ∈ names modules) ↔ ∃ part ∈ modules, part.name.isSome = true := by
  simp only [names, List.mem_map, Option.isSome_iff_exists]
  constructor
  · intro named
    obtain ⟨name, part, member, same⟩ := named
    exact ⟨part, member, name, same⟩
  · intro named
    obtain ⟨part, member, name, same⟩ := named
    exact ⟨name, part, member, same⟩

theorem names_sorted (modules : List Module) :
    names (modules.map Module.sorted) = names modules := by
  simp [names, Function.comp_def]

structure Shaped (options : BuildOptions) (modules : List Module) : Prop where
  occupied : ∀ part ∈ modules, part.symbols ≠ []
  apart : (names modules).IsChain (· ≠ ·)
  unnamedFirst : none ∉ (names modules).tail
  unskipped : options.skipBaseKernel = true → none ∉ names modules

def prolonged (owners : List (Option Text)) (owner : Option Text) : List (Option Text) :=
  if owners.getLast? = some owner then owners else owners ++ [owner]

section Prolonged

variable {owners : List (Option Text)} {owner : Option Text}

theorem mem_prolonged (other : Option Text) :
    other ∈ prolonged owners owner ↔ other ∈ owners ∨ other = owner := by
  unfold prolonged
  split
  next last =>
    constructor
    · exact .inl
    · intro either
      rcases either with inside | rfl
      · exact inside
      · exact List.mem_of_getLast? last
  next => simp

theorem isChain_prolonged (apart : owners.IsChain (· ≠ ·)) :
    (prolonged owners owner).IsChain (· ≠ ·) := by
  unfold prolonged
  split
  next => exact apart
  next different =>
    apply List.isChain_append.2
    refine ⟨apart, by simp, ?_⟩
    intro last isLast first isFirst same
    simp only [List.head?_cons, Option.mem_def, Option.some.injEq] at isLast isFirst
    exact different (by rw [isLast, same, isFirst])

theorem none_notMem_tail_prolonged (unnamedFirst : none ∉ owners.tail)
    (alone : owner = none → ∀ name, some name ∉ owners) :
    none ∉ (prolonged owners owner).tail := by
  cases owners with
  | nil => simp [prolonged]
  | cons first rest =>
      unfold prolonged
      split
      next => exact unnamedFirst
      next different =>
        simp only [List.cons_append, List.tail_cons, List.mem_append, List.mem_singleton, not_or]
        refine ⟨unnamedFirst, ?_⟩
        intro unnamed
        -- All owners so far are unnamed, so the last one would have been prolonged.
        cases last : (first :: rest).getLast? with
        | none => simp at last
        | some owner' =>
            cases owner' with
            | none => exact different (last.trans (congrArg some unnamed))
            | some name => exact alone unnamed.symm name (List.mem_of_getLast? last)

end Prolonged

namespace Shaped

variable {options : BuildOptions} {modules : List Module}

theorem nil : Shaped options [] where
  occupied := by simp
  apart := .nil
  unnamedFirst := by simp [names]
  unskipped := by simp [names]

theorem of_names {others : List Module} (shaped : Shaped options modules)
    (same : names others = names modules) (occupied : ∀ part ∈ others, part.symbols ≠ []) :
    Shaped options others := by
  refine ⟨occupied, ?_, ?_, ?_⟩ <;> rw [same]
  · exact shaped.apart
  · exact shaped.unnamedFirst
  · exact shaped.unskipped

theorem sorted (shaped : Shaped options modules) : Shaped options (modules.map Module.sorted) := by
  apply shaped.of_names (names_sorted modules)
  · rw [List.forall_mem_map]
    intro part member empty
    have length := part.sorted_length
    rw [empty, List.length_nil, eq_comm, List.length_eq_zero_iff] at length
    exact shaped.occupied part member length

theorem rest_named {first : Module} {rest : List Module} (shaped : Shaped options (first :: rest))
    (part : Module) (member : part ∈ rest) : part.name ≠ none := by
  intro unnamed
  have inside : part.name ∈ names rest := List.mem_map_of_mem member
  rw [unnamed] at inside
  exact shaped.unnamedFirst inside

theorem filter_unnamed (shaped : Shaped options modules) :
    modules.filter (fun part => part.name == none) =
      (modules.head?.filter fun part => part.name == none).toList := by
  cases modules with
  | nil => rfl
  | cons first rest =>
      have named : rest.filter (fun part => part.name == none) = [] := by
        rw [List.filter_eq_nil_iff]
        intro part member unnamed
        exact shaped.rest_named part member (eq_of_beq unnamed)
      rw [List.filter_cons, named, List.head?_cons, Option.filter_some]
      split <;> rfl

theorem module?_none (shaped : Shaped options modules) :
    Table.module? ⟨modules⟩ none = modules.head?.filter fun part => part.name == none := by
  rw [Table.module?, ← List.head?_filter, shaped.filter_unnamed]
  cases modules.head?.filter fun part => part.name == none <;> rfl

theorem module?_none_eq_some_iff (shaped : Shaped options modules) (part : Module) :
    Table.module? ⟨modules⟩ none = some part ↔ modules[0]? = some part ∧ part.name = none := by
  rw [shaped.module?_none, Option.filter_eq_some_iff, List.head?_eq_getElem?, beq_iff_eq]

theorem baseSymbols_eq (shaped : Shaped options modules) :
    Table.baseSymbols ⟨modules⟩ =
      (Table.module? ⟨modules⟩ none).elim [] fun part => part.symbols := by
  rw [Table.baseSymbols, shaped.filter_unnamed, ← shaped.module?_none]
  cases Table.module? ⟨modules⟩ none <;> simp

theorem isEmpty_iff (shaped : Shaped options modules) :
    Table.isEmpty ⟨modules⟩ = true ↔ Table.symbolCount ⟨modules⟩ = 0 := by
  rw [Table.isEmpty, List.isEmpty_iff, Table.symbolCount, List.length_eq_zero_iff, Table.symbols,
    List.flatMap_eq_nil_iff]
  constructor
  · intro nothing part member
    simp only at nothing
    simp [nothing] at member
  · intro empty
    apply List.eq_nil_iff_forall_not_mem.2
    intro part member
    exact shaped.occupied part member (empty part member)

end Shaped

namespace Builder

theorem names_inOrder (begun : List Module) : names (inOrder begun) = (names begun).reverse := by
  simp [names, inOrder, Function.comp_def]

theorem names_addTo (entry : Entry) (begun : List Module) :
    names (inOrder (addTo entry begun)) = prolonged (names (inOrder begun)) entry.owner := by
  simp only [names_inOrder]
  cases begun with
  | nil => simp [addTo, prolonged, names]
  | cons latest earlier =>
      by_cases same : latest.name = entry.owner <;> simp [addTo, prolonged, names, same]

theorem occupied_inOrder (begun : List Module) :
    (∀ part ∈ inOrder begun, part.symbols ≠ []) ↔ ∀ part ∈ begun, part.symbols ≠ [] := by
  simp [inOrder]

theorem occupied_addTo (entry : Entry) (begun : List Module)
    (occupied : ∀ part ∈ begun, part.symbols ≠ []) :
    ∀ part ∈ addTo entry begun, part.symbols ≠ [] := by
  cases begun with
  | nil => simp [addTo]
  | cons latest earlier =>
      rw [List.forall_mem_cons] at occupied
      by_cases same : latest.name = entry.owner
      · simpa [addTo, same] using occupied.2
      · simpa [addTo, same] using occupied

theorem shaped_addTo {options : BuildOptions} {begun : List Module} {entry : Entry}
    (shaped : Shaped options (inOrder begun))
    (alone : entry.owner = none →
      options.skipBaseKernel = false ∧ ∀ name, some name ∉ names (inOrder begun)) :
    Shaped options (inOrder (addTo entry begun)) := by
  refine ⟨?_, ?_, ?_, ?_⟩
  · rw [occupied_inOrder]
    exact occupied_addTo entry begun ((occupied_inOrder begun).1 shaped.occupied)
  · rw [names_addTo]
    exact isChain_prolonged shaped.apart
  · rw [names_addTo]
    exact none_notMem_tail_prolonged shaped.unnamedFirst fun unnamed => (alone unnamed).2
  · intro skips
    rw [names_addTo, mem_prolonged, not_or]
    refine ⟨shaped.unskipped skips, ?_⟩
    intro unnamed
    simp [(alone unnamed.symm).1] at skips

structure Invariant (builder : Builder) : Prop where
  shaped : Shaped builder.options (inOrder builder.begun)
  seen : builder.seenNamed = true ↔ ∃ name, some name ∈ names (inOrder builder.begun)

theorem invariant_start (options : BuildOptions) : Invariant { options } where
  shaped := .nil
  seen := by simp [inOrder, names]

theorem judge_eq_kept_iff_unfiltered (builder : Builder) (line : Text) (entry : Entry) :
    builder.judge line = .kept entry ↔
      Entry.parse? line = some entry ∧
        (entry.owner = none →
          builder.options.skipBaseKernel = false ∧ builder.seenNamed = false) := by
  rw [judge_eq_kept_iff]
  apply and_congr_right
  intro parsed
  rw [← Entry.parse?_owner_isSome line entry parsed]
  cases entry.owner with
  | none => simp
  | some owner => simp

theorem push_of_kept (builder : Builder) (line : Text) (entry : Entry)
    (kept : builder.judge line = .kept entry) :
    builder.push line =
      { builder with
        begun := addTo entry builder.begun
        seenNamed := builder.seenNamed || entry.owner.isSome } := by
  simp [push, kept]

theorem push_invariant (builder : Builder) (line : Text) (invariant : builder.Invariant) :
    (builder.push line).Invariant := by
  cases judged : builder.judge line with
  | filtered | malformed =>
      constructor
      · simpa [push, judged] using invariant.shaped
      · simpa [push, judged] using invariant.seen
  | kept entry =>
      rw [push_of_kept builder line entry judged]
      constructor
      · apply shaped_addTo invariant.shaped
        intro unnamed
        obtain ⟨unskipped, unseen⟩ :=
          ((judge_eq_kept_iff_unfiltered builder line entry).1 judged).2 unnamed
        refine ⟨unskipped, fun name member => ?_⟩
        simp [invariant.seen.2 ⟨name, member⟩] at unseen
      · simp only [names_addTo, mem_prolonged, exists_or, Bool.or_eq_true, invariant.seen,
          Option.isSome_iff_exists, eq_comm (a := entry.owner)]

theorem pushAll_invariant (builder : Builder) (lines : List Text) (invariant : builder.Invariant) :
    (builder.pushAll lines).Invariant := by
  induction lines generalizing builder with
  | nil => exact invariant
  | cons line rest ih => exact ih _ (push_invariant builder line invariant)

end Builder

theorem buildLines_shaped (options : BuildOptions) (lines : List Text) :
    Shaped options (buildLines options lines).table.modules := by
  have invariant := Builder.pushAll_invariant _ lines (Builder.invariant_start options)
  have shaped := invariant.shaped.sorted
  rwa [Builder.pushAll_options] at shaped

namespace Builder

theorem pushAll_keeps_shape (options : BuildOptions) (lines : List Text) :
    let builder := pushAll { options } lines
    let table := builder.finish.table
    Shaped options (inOrder builder.begun) ∧
    (builder.seenNamed = true ↔ ∃ part ∈ inOrder builder.begun, part.name.isSome = true) ∧
    Shaped options table.modules ∧
    (builder.seenNamed = true ↔ ∃ part ∈ table.modules, part.name.isSome = true) ∧
    (∀ part ∈ table.modules,
      part.symbols.Pairwise fun left right => left.address ≤ right.address) ∧
    (table.isEmpty = true ↔ table.symbolCount = 0) ∧
    ∀ part, (table.module? none = some part ↔
        table.modules[0]? = some part ∧ part.name = none) ∧
      (table.module? none = some part → part.symbols = table.baseSymbols) := by
  intro builder table
  have invariant : builder.Invariant := pushAll_invariant _ lines (invariant_start options)
  have kept : builder.options = options := pushAll_options _ lines
  have begun : Shaped options (inOrder builder.begun) := kept ▸ invariant.shaped
  have finished : Shaped options table.modules := begun.sorted
  refine ⟨begun, ?_, finished, ?_, ?_, finished.isEmpty_iff, fun part => ⟨?_, ?_⟩⟩
  · rw [invariant.seen, exists_named_iff]
  · rw [invariant.seen, ← names_sorted, exists_named_iff]
    rfl
  · intro part member
    obtain ⟨unsorted, _, rfl⟩ := List.mem_map.1 member
    exact unsorted.sorted_ascending
  · exact finished.module?_none_eq_some_iff part
  · intro found
    rw [finished.baseSymbols_eq, found]
    rfl

end Builder

end Symbolizer
