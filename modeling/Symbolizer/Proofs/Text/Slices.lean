import Symbolizer.Text.Basic

set_option autoImplicit false

namespace Symbolizer.Text

def offset? (test : Char → Bool) : Text → Option Nat
  | [] => none
  | head :: rest => if test head then some 0 else (offset? test rest).map (head.utf8Size + ·)

def sliceTo? (offset : Nat) (text : Text) : Option Text :=
  let before := takeBytes offset text
  if byteLength before = offset then some before else none

theorem sliceTo?_append (before after : Text) :
    sliceTo? (byteLength before) (before ++ after) = some before := by
  simp [sliceTo?, takeBytes_append]

theorem offset?_eq_none {test : Char → Bool} {text : Text} (fails : ∀ c ∈ text, test c = false) :
    offset? test text = none := by
  induction text with
  | nil => rfl
  | cons head rest ih =>
      rw [List.forall_mem_cons] at fails
      simp [offset?, fails.1, ih fails.2]

theorem offset?_append {test : Char → Bool} {before : Text} {c : Char} {after : Text}
    (fails : ∀ other ∈ before, test other = false) (passes : test c = true) :
    offset? test (before ++ c :: after) = some (byteLength before) := by
  induction before with
  | nil => simp [offset?, byteLength, passes]
  | cons head before ih =>
      rw [List.forall_mem_cons] at fails
      simp [offset?, byteLength, fails.1, ih fails.2]

theorem offset?_getD (test : Char → Bool) (text : Text) :
    (offset? (fun c => !test c) text).getD (byteLength text) =
      byteLength (text.takeWhile test) := by
  induction text with
  | nil => rfl
  | cons head rest ih =>
      by_cases passes : test head
      · cases found : offset? (fun c => !test c) rest <;>
          simp [offset?, byteLength, passes, found, ← ih]
      · simp [offset?, byteLength, passes]

theorem sliceTo?_takeWhile (test : Char → Bool) (text : Text) :
    sliceTo? (byteLength (text.takeWhile test)) text = some (text.takeWhile test) := by
  have whole : text.takeWhile test ++ text.dropWhile test = text :=
    List.takeWhile_append_dropWhile
  have sliced := sliceTo?_append (text.takeWhile test) (text.dropWhile test)
  rwa [whole] at sliced

section Separator

variable {separator : Char} {text before after : Text}

theorem beq_eq_false_of_notMem (absent : separator ∉ text) :
    ∀ c ∈ text, (c == separator) = false := by
  intro c member
  have other : c ≠ separator := fun same => absent (same ▸ member)
  simpa using other

theorem offset?_of_cut?_none (uncut : cut? separator text = none) :
    offset? (· == separator) text = none :=
  offset?_eq_none (beq_eq_false_of_notMem ((cut?_eq_none_iff separator text).1 uncut))

variable (cut : cut? separator text = some (before, after))

include cut

theorem offset?_of_cut? : offset? (· == separator) text = some (byteLength before) := by
  obtain ⟨rfl, absent⟩ := (cut?_eq_some_iff separator text before after).1 cut
  exact offset?_append (beq_eq_false_of_notMem absent) (by simp)

theorem sliceTo?_of_cut? : sliceTo? (byteLength before) text = some before := by
  obtain ⟨rfl, _⟩ := (cut?_eq_some_iff separator text before after).1 cut
  exact sliceTo?_append before _

theorem dropBytes?_of_cut? (ascii : separator.utf8Size = 1) (count : Nat) :
    dropBytes? (byteLength before + 1 + count) text = dropBytes? count after := by
  obtain ⟨rfl, _⟩ := (cut?_eq_some_iff separator text before after).1 cut
  have behind := dropBytes?_add (before ++ [separator]) after count
  simpa [byteLength_append, byteLength, ascii] using behind

end Separator

end Symbolizer.Text
