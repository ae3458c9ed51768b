import Symbolizer.Text.Basic

set_option autoImplicit false

namespace Symbolizer

namespace Text

def fallsIn : List (Nat × Nat) → Char → Bool
  | [], _ => false
  | range :: rest, c =>
      if c.toNat < range.1 then false else c.toNat ≤ range.2 || fallsIn rest c

theorem fallsIn_iff (ranges : List (Nat × Nat)) (c : Char)
    (ascending : ranges.Pairwise fun left right => left.1 ≤ right.1) :
    fallsIn ranges c = true ↔ ∃ range ∈ ranges, range.1 ≤ c.toNat ∧ c.toNat ≤ range.2 := by
  induction ranges with
  | nil => simp [fallsIn]
  | cons range rest ih =>
      have parts := List.pairwise_cons.mp ascending
      by_cases before : c.toNat < range.1
      · simp only [fallsIn, before, if_true, Bool.false_eq_true, false_iff]
        intro found
        obtain ⟨other, member, low, _⟩ := found
        cases member with
        | head => omega
        | tail _ member =>
            have := parts.1 other member
            omega
      · have after : range.1 ≤ c.toNat := by omega
        simp [fallsIn, before, after, ih parts.2]

def blankRanges : List (Nat × Nat) :=
  [(0x09, 0x0d), (0x20, 0x20), (0x85, 0x85), (0xa0, 0xa0), (0x1680, 0x1680), (0x2000, 0x200a),
    (0x2028, 0x2029), (0x202f, 0x202f), (0x205f, 0x205f), (0x3000, 0x3000)]

def isBlank (c : Char) : Bool :=
  fallsIn blankRanges c

def trimStart (text : Text) : Text :=
  text.dropWhile isBlank

def trimEnd (text : Text) : Text :=
  (text.reverse.dropWhile isBlank).reverse

def trim (text : Text) : Text :=
  trimEnd (trimStart text)

def endsBlank (text : Text) : Bool :=
  text.getLast?.any isBlank

theorem endsBlank_append (text last : Text) (occupied : last ≠ []) :
    endsBlank (text ++ last) = endsBlank last := by
  obtain ⟨c, isLast⟩ := Option.isSome_iff_exists.1 (List.getLast?_isSome.2 occupied)
  simp [endsBlank, List.getLast?_append, isLast]

theorem trimEnd_append_blanks (text blanks : Text) (blank : ∀ c ∈ blanks, isBlank c = true) :
    trimEnd (text ++ blanks) = trimEnd text := by
  have behind : ∀ c ∈ blanks.reverse, isBlank c = true := by simpa using blank
  rw [trimEnd, trimEnd, List.reverse_append, List.dropWhile_append_of_pos behind]

theorem trimEnd_of_not_endsBlank (text : Text) (visible : endsBlank text = false) :
    trimEnd text = text := by
  rw [endsBlank, ← List.head?_reverse] at visible
  rw [trimEnd]
  cases backwards : text.reverse with
  | nil => simpa using backwards.symm
  | cons last rest =>
      rw [backwards] at visible
      have seen : ¬isBlank last = true := by simpa using visible
      rw [List.dropWhile_cons_of_neg seen, ← backwards, List.reverse_reverse]

theorem trimStart_blanks_append (blanks text : Text) (blank : ∀ c ∈ blanks, isBlank c = true)
    (visible : ∀ c ∈ text.head?, isBlank c = false) : trimStart (blanks ++ text) = text := by
  rw [trimStart, List.dropWhile_append_of_pos blank]
  cases text with
  | nil => rfl
  | cons first rest => simp [visible first rfl]

end Text

end Symbolizer
