import Symbolizer.Table.Builder

set_option autoImplicit false

namespace Symbolizer

def namesOwner (line : Text) : Bool :=
  line.contains '[' && (Entry.parse? line).isSome

def counts (options : BuildOptions) (earlier : List Text) (line : Text) : Bool :=
  (Entry.parse? line).isSome &&
    (line.contains '[' || (!options.skipBaseKernel && !earlier.any namesOwner))

namespace Entry

theorem splitOwner_owner_isSome (line : Text) :
    (splitOwner line).2.isSome ↔ '[' ∈ line := by
  cases cut : Text.cut? '[' line with
  | none =>
      have absent := (Text.cut?_eq_none_iff '[' line).1 cut
      simp [splitOwner, cut, absent]
  | some parts =>
      have whole := ((Text.cut?_eq_some_iff '[' line parts.1 parts.2).1 cut).1
      have present : '[' ∈ line := by simp [whole]
      simp [splitOwner, cut, present]

theorem parse?_owner_isSome (line : Text) (entry : Entry) (parsed : parse? line = some entry) :
    entry.owner.isSome ↔ '[' ∈ line := by
  simp only [parse?, Option.map_eq_some_iff] at parsed
  obtain ⟨described, _, rfl⟩ := parsed
  exact splitOwner_owner_isSome line

end Entry

namespace Builder

theorem judge_eq_kept_iff (builder : Builder) (line : Text) (entry : Entry) :
    builder.judge line = .kept entry ↔
      Entry.parse? line = some entry ∧
        ('[' ∈ line ∨ builder.options.skipBaseKernel = false ∧ builder.seenNamed = false) := by
  by_cases bracket : '[' ∈ line
  · cases parsed : Entry.parse? line <;> simp [judge, bracket, parsed]
  · cases seen : builder.seenNamed <;> cases skip : builder.options.skipBaseKernel <;>
      cases parsed : Entry.parse? line <;> simp [judge, bracket, parsed, seen, skip]

theorem judge_kept?_eq_some_iff (builder : Builder) (line : Text) (entry : Entry) :
    (builder.judge line).kept? = some entry ↔ builder.judge line = .kept entry := by
  cases builder.judge line <;> simp [Verdict.kept?]

@[simp] theorem push_options (builder : Builder) (line : Text) :
    (builder.push line).options = builder.options := by
  unfold push
  cases builder.judge line <;> rfl

theorem push_seenNamed (builder : Builder) (line : Text) :
    (builder.push line).seenNamed = (builder.seenNamed || namesOwner line) := by
  cases judged : (builder.judge line).kept? with
  | some entry =>
      have kept := (judge_kept?_eq_some_iff builder line entry).1 judged
      have parsed := ((judge_eq_kept_iff builder line entry).1 kept).1
      have owned : entry.owner.isSome = namesOwner line := by
        rw [Bool.eq_iff_iff, Entry.parse?_owner_isSome line entry parsed]
        simp [namesOwner, parsed]
      simp [push, kept, owned]
  | none =>
      -- A line that names an owner and can be read passes the filter.
      have unnamed : namesOwner line = false := by
        apply Bool.eq_false_iff.2
        intro named
        simp only [namesOwner, Bool.and_eq_true, List.contains_iff_mem,
          Option.isSome_iff_exists] at named
        obtain ⟨bracket, entry, parsed⟩ := named
        have kept := (judge_eq_kept_iff builder line entry).2 ⟨parsed, .inl bracket⟩
        simp [kept, Verdict.kept?] at judged
      have same : (builder.push line).seenNamed = builder.seenNamed := by
        unfold push
        cases verdict : builder.judge line <;> simp_all [Verdict.kept?]
      simp [same, unnamed]

theorem push_begun (builder : Builder) (line : Text) :
    (builder.push line).begun =
      (builder.judge line).kept?.elim builder.begun fun entry => addTo entry builder.begun := by
  unfold push
  cases builder.judge line <;> rfl

theorem push_skipped (builder : Builder) (line : Text) :
    (builder.push line).skipped =
      builder.skipped + if (builder.judge line).isKept then 0 else 1 := by
  unfold push
  cases builder.judge line <;> rfl

@[simp] theorem pushAll_nil (builder : Builder) : builder.pushAll [] = builder := rfl

@[simp] theorem pushAll_cons (builder : Builder) (line : Text) (rest : List Text) :
    builder.pushAll (line :: rest) = (builder.push line).pushAll rest := rfl

@[simp] theorem pushAll_options (builder : Builder) (lines : List Text) :
    (builder.pushAll lines).options = builder.options := by
  induction lines generalizing builder with
  | nil => rfl
  | cons line rest ih => simp [ih]

theorem pushAll_seenNamed (builder : Builder) (lines : List Text) :
    (builder.pushAll lines).seenNamed = (builder.seenNamed || lines.any namesOwner) := by
  induction lines generalizing builder with
  | nil => simp
  | cons line rest ih => simp [ih, push_seenNamed, Bool.or_assoc]

theorem pushAll_skipped (builder : Builder) (lines : List Text) :
    (builder.pushAll lines).skipped =
      builder.skipped + (builder.verdicts lines).countP fun verdict => !verdict.isKept := by
  induction lines generalizing builder with
  | nil => simp [verdicts]
  | cons line rest ih =>
      rw [pushAll_cons, ih, push_skipped, verdicts, List.countP_cons]
      cases (builder.judge line).isKept with
      | false =>
          simp
          omega
      | true => simp

theorem verdicts_length (builder : Builder) (lines : List Text) :
    (builder.verdicts lines).length = lines.length := by
  induction lines generalizing builder with
  | nil => rfl
  | cons line rest ih => simp [verdicts, ih]

theorem verdicts_getElem? (builder : Builder) (lines : List Text) (index : Nat) :
    (builder.verdicts lines)[index]? =
      lines[index]?.map (builder.pushAll (lines.take index)).judge := by
  induction lines generalizing builder index with
  | nil => simp [verdicts]
  | cons line rest ih => cases index <;> simp [verdicts, ih]

theorem verdict_kept_iff (options : BuildOptions) (lines : List Text) (index : Nat)
    (entry : Entry) :
    (verdicts { options } lines)[index]? = some (.kept entry) ↔
      ∃ line, lines[index]? = some line ∧ Entry.parse? line = some entry ∧
        counts options (lines.take index) line = true := by
  rw [verdicts_getElem?, Option.map_eq_some_iff]
  apply exists_congr
  intro line
  apply and_congr_right
  intro _
  rw [judge_eq_kept_iff, pushAll_options, pushAll_seenNamed]
  apply and_congr_right
  intro parsed
  simp [counts, parsed]

theorem kept_cons (builder : Builder) (line : Text) (rest : List Text) :
    builder.kept (line :: rest) =
      (builder.judge line).kept?.toList ++ (builder.push line).kept rest := by
  unfold kept
  rw [verdicts, List.filterMap_cons]
  cases (builder.judge line).kept? <;> rfl

theorem kept_length (builder : Builder) (lines : List Text) :
    (builder.kept lines).length = (builder.verdicts lines).countP Verdict.isKept := by
  unfold kept
  induction builder.verdicts lines with
  | nil => rfl
  | cons verdict rest ih =>
      rw [List.filterMap_cons, List.countP_cons]
      cases verdict <;> simp [Verdict.kept?, Verdict.isKept, ih]

theorem pushAll_skipped_add_kept (builder : Builder) (lines : List Text) :
    (builder.pushAll lines).skipped + (builder.kept lines).length =
      builder.skipped + lines.length := by
  rw [pushAll_skipped, kept_length, ← builder.verdicts_length lines,
    List.length_eq_countP_add_countP Verdict.isKept]
  simp
  omega

theorem pushAll_begun (builder : Builder) (lines : List Text) :
    (builder.pushAll lines).begun =
      (builder.kept lines).foldl (fun begun entry => addTo entry begun) builder.begun := by
  induction lines generalizing builder with
  | nil => rfl
  | cons line rest ih =>
      rw [pushAll_cons, ih, kept_cons, List.foldl_append, push_begun]
      cases (builder.judge line).kept? <;> rfl

end Builder

end Symbolizer
