import Mathlib.Data.List.Forall2
import Mathlib.Data.List.SplitBy
import Symbolizer.Proofs.Table.Kept
import Symbolizer.Proofs.Table.Sorted

set_option autoImplicit false

namespace Symbolizer

def runs (entries : List Entry) : List (List Entry) :=
  entries.splitBy fun left right => left.owner == right.owner

def Module.ofRun (run : List Entry) : Module :=
  -- All entries of a run have one owner, so the first one names the module.
  ⟨run.head?.bind Entry.owner, run.map Entry.symbol⟩

structure MaximalRuns (entries : List Entry) (parts : List (List Entry)) : Prop where
  whole : parts.flatten = entries
  occupied : ∀ run ∈ parts, run ≠ []
  uniform : ∀ run ∈ parts, ∀ left ∈ run, ∀ right ∈ run, left.owner = right.owner
  maximal : parts.IsChain fun run next => ∀ left ∈ run, ∀ right ∈ next, left.owner ≠ right.owner

theorem isChain_owner_iff (run : List Entry) :
    run.IsChain (fun left right => (left.owner == right.owner) = true) ↔
      ∀ left ∈ run, ∀ right ∈ run, left.owner = right.owner := by
  constructor
  · intro chain
    -- Having one owner is transitive, so what holds of neighbours holds of all pairs.
    let SameOwner (left right : Entry) : Prop := left.owner = right.owner
    have trans : Trans SameOwner SameOwner SameOwner := ⟨Eq.trans⟩
    have symm : Std.Symm SameOwner := ⟨fun _ _ same => same.symm⟩
    have pairs : run.Pairwise SameOwner := (chain.imp fun _ _ same => by simpa using same).pairwise
    exact pairs.forall_of_forall fun _ _ => rfl
  · intro uniform
    apply List.Pairwise.isChain
    apply List.pairwise_of_forall_mem_list
    intro left leftMember right rightMember
    simpa using uniform left leftMember right rightMember

theorem maximalRuns_iff (entries : List Entry) (parts : List (List Entry)) :
    MaximalRuns entries parts ↔ parts = runs entries := by
  rw [eq_comm, runs, List.splitBy_eq_iff]
  constructor
  · intro described
    obtain ⟨whole, occupied, uniform, maximal⟩ := described
    refine ⟨whole.symm, fun empty => occupied [] empty rfl,
      fun run member => (isChain_owner_iff run).2 (uniform run member), ?_⟩
    apply maximal.imp_of_mem_imp
    intro run next runMember nextMember apart
    refine ⟨occupied run runMember, occupied next nextMember, ?_⟩
    simpa using apart _ (List.getLast_mem _) _ (List.head_mem _)
  · intro split
    obtain ⟨whole, occupied, chains, maximal⟩ := split
    have uniform : ∀ run ∈ parts, ∀ left ∈ run, ∀ right ∈ run, left.owner = right.owner :=
      fun run member => (isChain_owner_iff run).1 (chains run member)
    refine ⟨whole.symm, fun run member empty => occupied (empty ▸ member), uniform, ?_⟩
    apply maximal.imp_of_mem_imp
    intro run next runMember nextMember ends left leftMember right rightMember same
    obtain ⟨runOccupied, nextOccupied, apart⟩ := ends
    have fromLeft := uniform run runMember _ (List.getLast_mem runOccupied) left leftMember
    have toRight := uniform next nextMember right rightMember _ (List.head_mem nextOccupied)
    simp [fromLeft.trans (same.trans toRight)] at apart

theorem runs_maximal (entries : List Entry) : MaximalRuns entries (runs entries) :=
  (maximalRuns_iff entries _).2 rfl

theorem runs_of_owner (run : List Entry) (owner : Option Text) (occupied : run ≠ [])
    (owned : ∀ entry ∈ run, entry.owner = owner) : runs run = [run] := by
  apply List.splitBy_of_isChain occupied
  apply (isChain_owner_iff run).2
  intro left leftMember right rightMember
  rw [owned left leftMember, owned right rightMember]

theorem runs_append_cons (run : List Entry) (entry : Entry) (rest : List Entry)
    (apart : ∀ left ∈ run, left.owner ≠ entry.owner) :
    runs (run ++ entry :: rest) = runs run ++ runs (entry :: rest) := by
  apply List.splitBy_append_cons
  intro left last
  simpa using apart left (List.mem_of_getLast? last)

namespace Module

theorem ofRun_of_owner (run : List Entry) (owner : Option Text) (occupied : run ≠ [])
    (owned : ∀ entry ∈ run, entry.owner = owner) :
    ofRun run = ⟨owner, run.map Entry.symbol⟩ := by
  cases run with
  | nil => contradiction
  | cons entry rest => simp [ofRun, owned entry (by simp)]

theorem ofRun_name (run : List Entry)
    (uniform : ∀ left ∈ run, ∀ right ∈ run, left.owner = right.owner)
    (entry : Entry) (member : entry ∈ run) : (ofRun run).name = entry.owner := by
  rw [ofRun_of_owner run entry.owner (List.ne_nil_of_mem member)
    fun other inside => uniform other inside entry member]

end Module

namespace Builder

theorem inOrder_cons (part : Module) (earlier : List Module) :
    inOrder (part :: earlier) =
      inOrder earlier ++ [{ part with symbols := part.symbols.reverse }] := by
  simp [inOrder]

theorem inOrder_prolong (run entries : List Entry) (owner : Option Text) (earlier : List Module)
    (occupied : run ≠ []) (owned : ∀ entry ∈ run, entry.owner = owner) :
    inOrder (entries.foldl (fun begun entry => addTo entry begun)
        (⟨owner, (run.map Entry.symbol).reverse⟩ :: earlier)) =
      inOrder earlier ++ (runs (run ++ entries)).map Module.ofRun := by
  -- The latest module holds the run so far, which the entries still to come may prolong.
  induction entries generalizing run owner earlier with
  | nil =>
      simp [inOrder_cons, runs_of_owner run owner occupied owned,
        Module.ofRun_of_owner run owner occupied owned]
  | cons entry rest ih =>
      by_cases same : owner = entry.owner
      · have longer := ih (run ++ [entry]) owner earlier (by simp) (by
          intro other member
          rcases List.mem_append.1 member with old | new
          · exact owned other old
          · rw [List.mem_singleton.1 new, same])
        simpa [addTo, same] using longer
      · have fresh := ih [entry] entry.owner (⟨owner, (run.map Entry.symbol).reverse⟩ :: earlier)
          (by simp) (by simp)
        have apart : ∀ left ∈ run, left.owner ≠ entry.owner := fun left member ends =>
          same ((owned left member).symm.trans ends)
        simpa [addTo, same, inOrder_cons, runs_append_cons run entry rest apart,
          runs_of_owner run owner occupied owned,
          Module.ofRun_of_owner run owner occupied owned] using fresh

theorem inOrder_foldl_addTo (entries : List Entry) :
    inOrder (entries.foldl (fun begun entry => addTo entry begun) []) =
      (runs entries).map Module.ofRun := by
  cases entries with
  | nil => rfl
  | cons entry rest =>
      simpa [inOrder, addTo] using
        inOrder_prolong [entry] rest entry.owner [] (by simp) (by simp)

end Builder

theorem buildLines_modules (options : BuildOptions) (lines : List Text) :
    (buildLines options lines).table.modules =
      (runs (Builder.kept { options } lines)).map fun run => (Module.ofRun run).sorted := by
  simp [buildLines, Builder.finish, Builder.pushAll_begun, Builder.inOrder_foldl_addTo]

theorem buildLines_symbols (options : BuildOptions) (lines : List Text) :
    (buildLines options lines).symbols = (Builder.kept { options } lines).length := by
  have counted : (buildLines options lines).symbols =
      ((buildLines options lines).table.modules.flatMap Module.symbols).length := rfl
  have whole := (runs_maximal (Builder.kept { options } lines)).whole
  rw [counted, buildLines_modules, ← whole, List.length_flatten, whole]
  simp [Module.ofRun, List.length_flatMap, Function.comp_def]

theorem buildLines_moduleCount (options : BuildOptions) (lines : List Text) :
    (buildLines options lines).modules = (runs (Builder.kept { options } lines)).length := by
  have counted : (buildLines options lines).modules =
      (buildLines options lines).table.modules.length := rfl
  rw [counted, buildLines_modules, List.length_map]

theorem buildLines_skipped (options : BuildOptions) (lines : List Text) :
    (buildLines options lines).skipped =
      (Builder.verdicts { options } lines).countP fun verdict => !verdict.isKept := by
  have counted : (buildLines options lines).skipped =
      (Builder.pushAll { options } lines).skipped := rfl
  rw [counted, Builder.pushAll_skipped, Nat.zero_add]

theorem buildLines_symbols_add_skipped (options : BuildOptions) (lines : List Text) :
    (buildLines options lines).symbols + (buildLines options lines).skipped = lines.length := by
  have counted := Builder.pushAll_skipped_add_kept { options } lines
  rw [Nat.zero_add, Nat.add_comm] at counted
  rw [buildLines_symbols]
  exact counted

theorem forall₂_ofRun_sorted (entries : List Entry) :
    List.Forall₂ (fun run part => (∀ entry ∈ run, entry.owner = part.name) ∧
        InSourceOrder (run.map Entry.symbol) part.symbols)
      (runs entries) ((runs entries).map fun run => (Module.ofRun run).sorted) := by
  rw [List.forall₂_map_right_iff, List.forall₂_same]
  intro run member
  constructor
  · intro entry inside
    exact (Module.ofRun_name run ((runs_maximal entries).uniform run member) entry inside).symm
  · exact (Module.ofRun run).sorted_inSourceOrder

theorem buildLines_eq_sorted_runs (options : BuildOptions) (lines : List Text) :
    (∀ index entry, (Builder.verdicts { options } lines)[index]? = some (.kept entry) ↔
      ∃ line, lines[index]? = some line ∧ Entry.parse? line = some entry ∧
        ('[' ∈ line ∨ options.skipBaseKernel = false ∧
          ∀ earlier ∈ lines.take index, ¬('[' ∈ earlier ∧ (Entry.parse? earlier).isSome))) ∧
    (∀ parts, MaximalRuns (Builder.kept { options } lines) parts ↔
      parts = runs (Builder.kept { options } lines)) ∧
    List.Forall₂ (fun run part => (∀ entry ∈ run, entry.owner = part.name) ∧
        InSourceOrder (run.map Entry.symbol) part.symbols)
      (runs (Builder.kept { options } lines)) (buildLines options lines).table.modules ∧
    (buildLines options lines).symbols =
      (Builder.verdicts { options } lines).countP Verdict.isKept ∧
    (buildLines options lines).modules = (runs (Builder.kept { options } lines)).length ∧
    (buildLines options lines).skipped =
      (Builder.verdicts { options } lines).countP (fun verdict => !verdict.isKept) ∧
    (buildLines options lines).symbols + (buildLines options lines).skipped = lines.length := by
  have symbols : (buildLines options lines).symbols =
      (Builder.verdicts { options } lines).countP Verdict.isKept := by
    rw [buildLines_symbols, Builder.kept_length]
  have skipped := buildLines_skipped options lines
  refine ⟨?_, maximalRuns_iff _, ?_, symbols, buildLines_moduleCount options lines, skipped, ?_⟩
  · intro index entry
    rw [Builder.verdict_kept_iff]
    apply exists_congr
    intro line
    apply and_congr_right
    intro _
    apply and_congr_right
    intro parsed
    simp [counts, namesOwner, parsed]
  · rw [buildLines_modules]
    exact forall₂_ofRun_sorted _
  · rw [symbols, skipped, ← Builder.verdicts_length { options } lines,
      List.length_eq_countP_add_countP Verdict.isKept]
    simp

end Symbolizer
