import Mathlib.Algebra.Group.Nat.Defs
import Mathlib.Logic.ExistsUnique
import Symbolizer.Address
import Symbolizer.Proofs.Numeral
import Symbolizer.Proofs.Text.Trim

set_option autoImplicit false

namespace Symbolizer

namespace Address

theorem isBlank_of_isHexDigit (c : Char) (hex : isHexDigit c = true) : Text.isBlank c = false := by
  have code := (isHexDigit_iff c).1 hex
  have apart : ∀ range ∈ Text.blankRanges, range.2 < 48 ∨ 102 < range.1 := by decide
  rw [← Bool.not_eq_true, Text.isBlank, Text.fallsIn_iff _ c (by decide)]
  rintro ⟨range, member, low, high⟩
  have outside := apart range member
  omega

def IsMark (mark : Text) : Prop :=
  mark = [] ∨ mark = "0x".toList ∨ mark = "0X".toList

def EndsMark (text : Text) : Prop :=
  ∃ x digit rest, text = x :: digit :: rest ∧ (x = 'x' ∨ x = 'X') ∧ isHexDigit digit = true

/-- The mark counts only where a digit follows. -/
inductive Unmarked : Text → Text → Prop where
  | marked {x digit : Char} {rest : Text} (isX : x = 'x' ∨ x = 'X')
      (hex : isHexDigit digit = true) : Unmarked ('0' :: x :: digit :: rest) (digit :: rest)
  | plain {text : Text} (unmarked : ∀ rest, text = '0' :: rest → ¬EndsMark rest) :
      Unmarked text text

def Leads (field digits : Text) : Prop :=
  ∃ blanks trimmed body after,
    field = blanks ++ trimmed ∧ (∀ c ∈ blanks, Text.isBlank c = true) ∧
    (∀ c ∈ trimmed.head?, Text.isBlank c = false) ∧
    Unmarked trimmed body ∧
    body = digits ++ after ∧ (∀ c ∈ digits, isHexDigit c = true) ∧
    ∀ c ∈ after.head?, isHexDigit c = false

def body (trimmed : Text) : Text :=
  match afterMark? trimmed with
  | some (digit :: rest) => if isHexDigit digit then digit :: rest else trimmed
  | _ => trimmed

theorem leadingDigits_eq (field : Text) :
    leadingDigits field = (body (Text.trimStart field)).takeWhile isHexDigit := rfl

theorem exists_mark_of_afterMark? {text rest : Text} (found : afterMark? text = some rest) :
    ∃ x, text = '0' :: x :: rest ∧ (x = 'x' ∨ x = 'X') := by
  unfold afterMark? at found
  split at found
  next => exact ⟨'x', by simpa using found, .inl rfl⟩
  next => exact ⟨'X', by simpa using found, .inr rfl⟩
  next => contradiction

theorem body_of_marked {x digit : Char} {rest : Text} (isX : x = 'x' ∨ x = 'X')
    (hex : isHexDigit digit = true) : body ('0' :: x :: digit :: rest) = digit :: rest := by
  rcases isX with rfl | rfl <;> simp [body, afterMark?, hex]

theorem body_of_plain {text : Text} (unmarked : ∀ rest, text = '0' :: rest → ¬EndsMark rest) :
    body text = text := by
  unfold body
  split
  next digit rest found =>
    obtain ⟨x, rfl, isX⟩ := exists_mark_of_afterMark? found
    have other : ¬isHexDigit digit = true := fun hex =>
      unmarked _ rfl ⟨x, digit, rest, rfl, isX, hex⟩
    rw [if_neg other]
  next => rfl

theorem unmarked_iff (text rest : Text) : Unmarked text rest ↔ rest = body text := by
  constructor
  · intro unmarked
    cases unmarked with
    | marked isX hex => exact (body_of_marked isX hex).symm
    | plain unmarked => exact (body_of_plain unmarked).symm
  · rintro rfl
    by_cases marked : ∃ rest, text = '0' :: rest ∧ EndsMark rest
    · obtain ⟨_, rfl, x, digit, rest, rfl, isX, hex⟩ := marked
      rw [body_of_marked isX hex]
      exact .marked isX hex
    · have unmarked : ∀ rest, text = '0' :: rest → ¬EndsMark rest := fun rest same ends =>
        marked ⟨rest, same, ends⟩
      rw [body_of_plain unmarked]
      exact .plain unmarked

theorem leads_iff (field digits : Text) : Leads field digits ↔ digits = leadingDigits field := by
  constructor
  · rintro ⟨blanks, trimmed, _, after, rfl, blank, visible, unmarked, rfl, hex, stops⟩
    rw [leadingDigits_eq, Text.trimStart_blanks_append blanks trimmed blank visible,
      ← (unmarked_iff _ _).1 unmarked, takeWhile_run hex stops]
  · rintro rfl
    refine ⟨field.takeWhile Text.isBlank, Text.trimStart field, body (Text.trimStart field),
      (body (Text.trimStart field)).dropWhile isHexDigit, ?_, ?_, ?_, ?_, ?_, ?_, ?_⟩
    · exact List.takeWhile_append_dropWhile.symm
    · exact fun c member => List.mem_takeWhile_imp member
    · exact stops_dropWhile Text.isBlank field
    · exact (unmarked_iff _ _).2 rfl
    · exact List.takeWhile_append_dropWhile.symm
    · exact fun c member => List.mem_takeWhile_imp member
    · exact stops_dropWhile isHexDigit _

theorem readLeading_of_leads {field digits : Text} (leads : Leads field digits) :
    (readLeading field).toNat = min (hexValue digits) (2 ^ 64 - 1) := by
  rw [(leads_iff field digits).1 leads]
  exact readClamped_toNat _

section Spelled

variable {blanks mark digits after : Text} (blank : ∀ c ∈ blanks, Text.isBlank c = true)
  (isMark : IsMark mark)
  (stops : ∀ c ∈ after.head?, isHexDigit c = false)
  (bare : mark = [] → digits = ['0'] → ¬EndsMark after)

include isMark bare in
theorem unmarked_of_digits (occupied : digits ≠ []) (hex : ∀ c ∈ digits, isHexDigit c = true) :
    Unmarked (mark ++ (digits ++ after)) (digits ++ after) := by
  obtain ⟨first, others, rfl⟩ := List.exists_cons_of_ne_nil occupied
  have firstHex : isHexDigit first = true := hex first (by simp)
  rcases isMark with rfl | rfl | rfl
  · apply Unmarked.plain
    -- Behind a single zero the mark would be made up of the text after it.
    rintro _ same ⟨x, digit, rest, rfl, isX, digitHex⟩
    cases others with
    | nil =>
        obtain ⟨rfl, rfl⟩ : first = '0' ∧ after = x :: digit :: rest := by simpa using same
        exact bare rfl rfl ⟨x, digit, rest, rfl, isX, digitHex⟩
    | cons second others =>
        obtain ⟨_, rfl, _⟩ : first = '0' ∧ second = x ∧ others ++ after = digit :: rest := by
          simpa using same
        have secondHex : isHexDigit second = true := hex second (by simp)
        rcases isX with rfl | rfl <;> simp [isHexDigit, hexDigit?] at secondHex
  · exact .marked (.inl rfl) firstHex
  · exact .marked (.inr rfl) firstHex

include blank isMark stops bare in
theorem leads_of_digits (occupied : digits ≠ []) (hex : ∀ c ∈ digits, isHexDigit c = true) :
    Leads (blanks ++ (mark ++ (digits ++ after))) digits := by
  refine ⟨blanks, mark ++ (digits ++ after), digits ++ after, after, rfl, blank, ?_,
    unmarked_of_digits isMark bare occupied hex, rfl, hex, stops⟩
  obtain ⟨first, others, rfl⟩ := List.exists_cons_of_ne_nil occupied
  have visible : Text.isBlank first = false := isBlank_of_isHexDigit first (hex first (by simp))
  have zero : Text.isBlank '0' = false := by decide
  rcases isMark with rfl | rfl | rfl <;> simpa

include blank isMark stops bare in
theorem readLeading_of_spells (number : Address) (spells : Spells digits number.toNat) :
    readLeading (blanks ++ (mark ++ (digits ++ after))) = number := by
  apply UInt64.toNat_inj.1
  rw [readLeading_of_leads (leads_of_digits blank isMark stops bare spells.ne_nil spells.hex),
    spells.hexValue_eq]
  have small := number.toNat_lt
  omega

end Spelled

theorem readLeading_exact :
    (∀ field, ∃! digits, Leads field digits) ∧
    (∀ field digits, Leads field digits →
      (readLeading field).toNat = min (hexValue digits) (2 ^ 64 - 1)) ∧
    (∀ field, Leads field [] → readLeading field = 0) ∧
    (∀ (number : Address) (blanks mark digits after : Text),
      (∀ c ∈ blanks, Text.isBlank c = true) →
      (mark = [] ∨ mark = "0x".toList ∨ mark = "0X".toList) →
      Spells digits number.toNat →
      (∀ c ∈ after.head?, isHexDigit c = false) →
      (mark = [] → digits = ['0'] → ¬EndsMark after) →
      readLeading (blanks ++ (mark ++ (digits ++ after))) = number) ∧
    ∀ field digits, Leads field digits → 2 ^ 64 ≤ hexValue digits →
      readLeading field = largestWord := by
  refine ⟨?_, ?_, ?_, ?_, ?_⟩
  · intro field
    exact ⟨leadingDigits field, (leads_iff field _).2 rfl, fun other => (leads_iff field other).1⟩
  · exact fun field digits => readLeading_of_leads
  · intro field leads
    apply UInt64.toNat_inj.1
    simpa [hexValue] using readLeading_of_leads leads
  · intro number blanks mark digits after blank isMark spells stops bare
    exact readLeading_of_spells blank isMark stops bare number spells
  · intro field digits leads large
    apply UInt64.toNat_inj.1
    rw [readLeading_of_leads leads]
    exact Nat.min_eq_right (by omega)

-- A mark counts once, at the start, and before a digit only.
example : ["0x0x1", "0xg", "00x1", " 0Xfg"].map (fun field => readLeading field.toList) =
    [0, 0, 0, 0xf] := by
  decide

end Address

end Symbolizer
