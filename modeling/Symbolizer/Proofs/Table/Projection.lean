import Symbolizer.Proofs.Lookup.Tightest
import Symbolizer.Proofs.Table.Runs
import Symbolizer.Proofs.Table.Shape

set_option autoImplicit false

namespace Symbolizer

def named (modules : List Module) : List Module :=
  modules.filter fun part => part.name.isSome

theorem Shaped.eq_unnamed_append_named {options : BuildOptions} {modules : List Module}
    (shaped : Shaped options modules) :
    modules = (Table.module? ⟨modules⟩ none).toList ++ named modules := by
  rw [shaped.module?_none]
  cases modules with
  | nil => rfl
  | cons first rest =>
      have kept : rest.filter (fun part => part.name.isSome) = rest :=
        List.filter_eq_self.2 fun part member =>
          Option.isSome_iff_ne_none.2 (shaped.rest_named part member)
      cases name : first.name <;> simp [named, Option.filter, name, kept]

namespace Builder

theorem nothing_before_unnamed {options : BuildOptions} {latest : Module} {earlier : List Module}
    (shaped : Shaped options (inOrder (latest :: earlier))) (unnamed : latest.name = none) :
    earlier = [] := by
  rw [inOrder_cons] at shaped
  cases first : inOrder earlier with
  | nil => simpa [inOrder] using first
  | cons part rest =>
      rw [first] at shaped
      exact absurd unnamed (shaped.rest_named { latest with symbols := latest.symbols.reverse }
        (List.mem_append_right rest (List.mem_singleton_self _)))

theorem named_inOrder_sorted (begun : List Module) :
    named ((inOrder begun).map Module.sorted) = (inOrder (named begun)).map Module.sorted := by
  simp [named, inOrder, List.filter_map, Function.comp_def]

section AddTo

variable {entry : Entry}

theorem named_addTo {options : BuildOptions} {begun : List Module}
    (shaped : Shaped options (inOrder begun)) (owned : entry.owner.isSome = true) :
    named (addTo entry begun) = addTo entry (named begun) := by
  cases begun with
  | nil => simp [named, addTo, owned]
  | cons latest earlier =>
      cases name : latest.name with
      | none =>
          -- The unnamed module is the only one, and the entry begins the next.
          have alone := nothing_before_unnamed shaped name
          have other : none ≠ entry.owner := fun same => by simp [← same] at owned
          simp [named, addTo, alone, name, other, owned]
      | some text =>
          by_cases same : some text = entry.owner <;> simp [named, addTo, name, same, owned]

theorem named_addTo_unowned (begun : List Module) (unowned : entry.owner = none) :
    named (addTo entry begun) = named begun := by
  cases begun with
  | nil => simp [named, addTo, unowned]
  | cons latest earlier =>
      cases name : latest.name <;> simp [named, addTo, name, unowned]

end AddTo

theorem judge_of_bracket (builder other : Builder) (line : Text) (bracket : '[' ∈ line) :
    builder.judge line = other.judge line := by
  simp [judge, bracket]

theorem judge_skipping (builder : Builder) (line : Text)
    (skips : builder.options.skipBaseKernel = true) (plain : '[' ∉ line) :
    builder.judge line = .filtered := by
  simp [judge, skips, plain]

theorem kept_owner_isSome (builder : Builder) (line : Text) (entry : Entry)
    (kept : builder.judge line = .kept entry) : entry.owner.isSome = true ↔ '[' ∈ line :=
  Entry.parse?_owner_isSome line entry ((judge_eq_kept_iff builder line entry).1 kept).1

/-- The second builder has read the same lines and left out the base kernel. -/
structure Projects (full skipping : Builder) : Prop where
  invariant : full.Invariant
  skips : skipping.options.skipBaseKernel = true
  seen : skipping.seenNamed = full.seenNamed
  begun : skipping.begun = named full.begun

theorem projects_start : Projects { options := ⟨false⟩ } { options := ⟨true⟩ } where
  invariant := invariant_start _
  skips := rfl
  seen := rfl
  begun := rfl

theorem push_begun_of_projects (full skipping : Builder) (line : Text)
    (projects : Projects full skipping) :
    (skipping.push line).begun = named (full.push line).begun := by
  rw [push_begun, push_begun, projects.begun]
  -- Only a bracket tells whether the line reaches a named module, so the cases are on it.
  by_cases bracket : '[' ∈ line
  · rw [judge_of_bracket skipping full line bracket]
    cases judged : full.judge line with
    | filtered | malformed => rfl
    | kept entry =>
        have owned := (kept_owner_isSome full line entry judged).2 bracket
        exact (named_addTo projects.invariant.shaped owned).symm
  · rw [judge_skipping skipping line projects.skips bracket]
    cases judged : full.judge line with
    | filtered | malformed => rfl
    | kept entry =>
        have unowned : entry.owner = none := by
          rw [← Option.not_isSome_iff_eq_none, kept_owner_isSome full line entry judged]
          exact bracket
        exact (named_addTo_unowned full.begun unowned).symm

theorem push_projects (full skipping : Builder) (line : Text) (projects : Projects full skipping) :
    Projects (full.push line) (skipping.push line) := by
  constructor
  · exact push_invariant full line projects.invariant
  · rw [push_options, projects.skips]
  · rw [push_seenNamed, push_seenNamed, projects.seen]
  · exact push_begun_of_projects full skipping line projects

theorem pushAll_projects (full skipping : Builder) (lines : List Text)
    (projects : Projects full skipping) :
    Projects (full.pushAll lines) (skipping.pushAll lines) := by
  induction lines generalizing full skipping with
  | nil => exact projects
  | cons line rest ih => exact ih _ _ (push_projects full skipping line projects)

end Builder

theorem buildLines_skipping_modules (lines : List Text) :
    (buildLines ⟨true⟩ lines).table.modules = named (buildLines ⟨false⟩ lines).table.modules := by
  have projects := Builder.pushAll_projects _ _ lines Builder.projects_start
  have begun := projects.begun
  simp [buildLines, Builder.finish, begun, Builder.named_inOrder_sorted]

theorem skipBaseKernel_projects_onto_named (lines : List Text) :
    let full := buildLines { skipBaseKernel := false } lines
    let skipping := buildLines { skipBaseKernel := true } lines
    let base := full.table.module? none
    let baseCount := base.elim 0 fun part => part.symbols.length
    skipping.table.modules = full.table.modules.filter (fun part => part.name.isSome) ∧
    full.table.modules = base.toList ++ skipping.table.modules ∧
    full.symbols = skipping.symbols + baseCount ∧
    skipping.skipped = full.skipped + baseCount ∧
    ∀ address, full.table.lookup address =
      Resolved.tighter (Table.lookup ⟨base.toList⟩ address) (skipping.table.lookup address) := by
  intro full skipping base baseCount
  have modules : skipping.table.modules = named full.table.modules :=
    buildLines_skipping_modules lines
  have split : full.table.modules = base.toList ++ skipping.table.modules := by
    rw [modules]
    exact (buildLines_shaped ⟨false⟩ lines).eq_unnamed_append_named
  have symbols : full.symbols = skipping.symbols + baseCount := by
    have counted : full.symbols = (full.table.modules.flatMap Module.symbols).length := rfl
    have countedRest : skipping.symbols =
        (skipping.table.modules.flatMap Module.symbols).length := rfl
    rw [counted, countedRest, split, List.flatMap_append, List.length_append, Nat.add_comm]
    cases found : base <;> simp [baseCount, found]
  refine ⟨modules, split, symbols, ?_, ?_⟩
  · have fullLines : full.symbols + full.skipped = lines.length :=
      buildLines_symbols_add_skipped ⟨false⟩ lines
    have skippingLines : skipping.symbols + skipping.skipped = lines.length :=
      buildLines_symbols_add_skipped ⟨true⟩ lines
    omega
  · intro address
    have whole : full.table = ⟨base.toList ++ skipping.table.modules⟩ := by rw [← split]
    rw [whole, Table.lookup_append]

end Symbolizer
