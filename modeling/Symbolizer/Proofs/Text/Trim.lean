import Mathlib.Data.List.TakeWhile
import Symbolizer.Text.Blank

set_option autoImplicit false

namespace Symbolizer

theorem takeWhile_run {test : Char → Bool} {run after : Text}
    (inside : ∀ c ∈ run, test c = true) (stops : ∀ c ∈ after.head?, test c = false) :
    (run ++ after).takeWhile test = run := by
  cases after with
  | nil => simpa using inside
  | cons c rest => simp [List.takeWhile_append_of_pos inside, stops c rfl]

theorem stops_dropWhile (test : Char → Bool) (text : Text) :
    ∀ c ∈ (text.dropWhile test).head?, test c = false := by
  intro c first
  have stops := List.head?_dropWhile_not test text
  rwa [first] at stops

namespace Text

theorem trimEnd_visible (text : Text) : endsBlank (trimEnd text) = false := by
  rw [endsBlank, trimEnd, List.getLast?_reverse, Option.any_eq_false]
  intro c last
  simpa using stops_dropWhile isBlank text.reverse c last

theorem exists_trimEnd_append (text : Text) :
    ∃ blanks, text = trimEnd text ++ blanks ∧ ∀ c ∈ blanks, isBlank c = true := by
  refine ⟨(text.reverse.takeWhile isBlank).reverse, ?_, ?_⟩
  · rw [trimEnd, ← List.reverse_append, List.takeWhile_append_dropWhile, List.reverse_reverse]
  · intro c member
    exact List.mem_takeWhile_imp (List.mem_reverse.1 member)

def Trims (text core : Text) : Prop :=
  ∃ before after,
    text = before ++ (core ++ after) ∧
    (∀ c ∈ before, isBlank c = true) ∧ (∀ c ∈ after, isBlank c = true) ∧
    (∀ c ∈ core.head?, isBlank c = false) ∧ endsBlank core = false

theorem trim_of_trims {text core : Text} (trims : Trims text core) : trim text = core := by
  obtain ⟨before, after, rfl, blank, blankToo, visible, ends⟩ := trims
  cases core with
  | nil =>
      have nothing : trimStart (before ++ ([] ++ after)) = [] := by
        rw [List.nil_append, trimStart, List.dropWhile_append_of_pos blank]
        simpa using blankToo
      rw [trim, nothing]
      rfl
  | cons first rest =>
      rw [trim, trimStart_blanks_append before (first :: rest ++ after) blank visible,
        trimEnd_append_blanks _ _ blankToo, trimEnd_of_not_endsBlank _ ends]

theorem trims_trim (text : Text) : Trims text (trim text) := by
  obtain ⟨after, whole, blankToo⟩ := exists_trimEnd_append (trimStart text)
  refine ⟨text.takeWhile isBlank, after, ?_, ?_, blankToo, ?_, trimEnd_visible _⟩
  · rw [trim, ← whole]
    exact List.takeWhile_append_dropWhile.symm
  · exact fun c member => List.mem_takeWhile_imp member
  · intro c first
    -- What is cut off at the end leaves the first character as it is.
    have start : c ∈ (trimStart text).head? := by
      rw [whole, List.head?_append]
      simp [show (trimEnd (trimStart text)).head? = some c from first]
    exact stops_dropWhile isBlank text c start

theorem trims_iff (text core : Text) : Trims text core ↔ core = trim text :=
  ⟨fun trims => (trim_of_trims trims).symm, fun same => same ▸ trims_trim text⟩

end Text

end Symbolizer
