import Symbolizer.Proofs.Address

set_option autoImplicit false

namespace Symbolizer.Address

/-- Digits, a plus sign before them or none, a mark before both or none. -/
def Writes (core : Text) (number : Nat) : Prop :=
  ∃ mark sign digits,
    core = mark ++ (sign ++ digits) ∧ IsMark mark ∧ (sign = [] ∨ sign = ['+']) ∧
    digits ≠ [] ∧ (∀ c ∈ digits, isHexDigit c = true) ∧ hexValue digits = number

def numeral (core : Text) : Text :=
  (afterMark? core).getD core

theorem exists_mark_append_numeral (core : Text) :
    ∃ mark, core = mark ++ numeral core ∧ IsMark mark := by
  unfold numeral
  cases found : afterMark? core with
  | none => exact ⟨[], rfl, .inl rfl⟩
  | some digits =>
      obtain ⟨x, rfl, rfl | rfl⟩ := exists_mark_of_afterMark? found
      · exact ⟨_, rfl, .inr (.inl rfl)⟩
      · exact ⟨_, rfl, .inr (.inr rfl)⟩

theorem exists_sign_append_unsigned (text : Text) :
    ∃ sign, text = sign ++ unsigned text ∧ (sign = [] ∨ sign = ['+']) := by
  unfold unsigned
  split
  next => exact ⟨_, rfl, .inr rfl⟩
  next => exact ⟨[], rfl, .inl rfl⟩

section Written

variable {mark sign digits : Text} (isMark : IsMark mark)
  (isSign : sign = [] ∨ sign = ['+']) (hex : ∀ c ∈ digits, isHexDigit c = true)

include isSign hex

theorem afterMark?_of_digits : afterMark? (sign ++ digits) = none := by
  rw [Option.eq_none_iff_forall_ne_some]
  intro rest found
  obtain ⟨x, same, isX⟩ := exists_mark_of_afterMark? found
  rcases isSign with rfl | rfl
  · -- The second character of a mark is no digit.
    have digit : isHexDigit x = true := hex x (by simp [show digits = _ from same])
    rcases isX with rfl | rfl <;> simp [isHexDigit, hexDigit?] at digit
  · simp at same

theorem unsigned_append : unsigned (sign ++ digits) = digits := by
  rcases isSign with rfl | rfl
  · cases digits with
    | nil => rfl
    | cons first others =>
        have digit : isHexDigit first = true := hex first (by simp)
        have notSign : first ≠ '+' := by
          rintro rfl
          simp [isHexDigit, hexDigit?] at digit
        simp [unsigned, notSign]
  · rfl

include isMark in
theorem numeral_append : numeral (mark ++ (sign ++ digits)) = sign ++ digits := by
  rcases isMark with rfl | rfl | rfl
  · simp [numeral, afterMark?_of_digits isSign hex]
  · rfl
  · rfl

end Written

theorem numeral_eq_nil_iff (core : Text) : numeral core = [] ↔ IsMark core := by
  constructor
  · intro nothing
    obtain ⟨mark, whole, isMark⟩ := exists_mark_append_numeral core
    rw [nothing, List.append_nil] at whole
    exact whole ▸ isMark
  · rintro (rfl | rfl | rfl) <;> rfl

theorem writes_iff (core : Text) (number : Nat) :
    Writes core number ↔ unsigned (numeral core) ≠ [] ∧
      (∀ c ∈ unsigned (numeral core), isHexDigit c = true) ∧
        hexValue (unsigned (numeral core)) = number := by
  constructor
  · rintro ⟨mark, sign, digits, rfl, isMark, isSign, occupied, hex, value⟩
    rw [numeral_append isMark isSign hex, unsigned_append isSign hex]
    exact ⟨occupied, hex, value⟩
  · intro read
    obtain ⟨mark, whole, isMark⟩ := exists_mark_append_numeral core
    obtain ⟨sign, signed, isSign⟩ := exists_sign_append_unsigned (numeral core)
    exact ⟨mark, sign, unsigned (numeral core), signed ▸ whole, isMark, isSign, read⟩

theorem Writes.unique {core : Text} {number other : Nat} (writes : Writes core number)
    (writesToo : Writes core other) : number = other :=
  ((writes_iff core number).1 writes).2.2.symm.trans ((writes_iff core other).1 writesToo).2.2

theorem Writes.numeral_ne_nil {core : Text} {number : Nat} (writes : Writes core number) :
    numeral core ≠ [] := by
  intro nothing
  have digits := ((writes_iff core number).1 writes).1
  simp [nothing, unsigned] at digits

theorem parse_cases (text : Text) :
    (numeral (Text.trim text) = [] ∧ parse text = .error .empty) ∨
    (∃ address : Address, Writes (Text.trim text) address.toNat ∧ parse text = .ok address) ∨
    (numeral (Text.trim text) ≠ [] ∧ (∀ address : Address, ¬Writes (Text.trim text) address.toNat) ∧
      parse text = .error (.invalid (Text.trim text))) := by
  have unmarked : (afterMark? (Text.trim text)).getD (Text.trim text) =
      numeral (Text.trim text) := rfl
  simp only [parse, unmarked, List.isEmpty_iff, writes_iff, ← readExact?_eq_some_iff]
  split
  next nothing => exact .inl ⟨nothing, rfl⟩
  next occupied =>
    split
    next noDigits => exact .inr (.inr ⟨occupied, fun _ writes => writes.1 noDigits, rfl⟩)
    next digits =>
      cases read : readExact? (unsigned (numeral (Text.trim text))) with
      | some address => exact .inr (.inl ⟨address, ⟨digits, rfl⟩, rfl⟩)
      | none => exact .inr (.inr ⟨occupied, by simp, rfl⟩)

section Parse

variable (text : Text)

theorem parse_eq_ok_iff (address : Address) :
    parse text = .ok address ↔ Writes (Text.trim text) address.toNat := by
  rcases parse_cases text with ⟨nothing, refused⟩ | ⟨read, writes, accepted⟩ |
    ⟨_, unwritten, refused⟩
  · rw [refused]
    exact ⟨nofun, fun writes => absurd nothing writes.numeral_ne_nil⟩
  · rw [accepted, Except.ok.injEq]
    constructor
    · rintro rfl
      exact writes
    · exact fun other => UInt64.toNat_inj.1 (writes.unique other)
  · rw [refused]
    exact ⟨nofun, fun writes => absurd writes (unwritten address)⟩

theorem parse_eq_empty_iff : parse text = .error .empty ↔ IsMark (Text.trim text) := by
  rw [← numeral_eq_nil_iff]
  rcases parse_cases text with ⟨nothing, refused⟩ | ⟨_, writes, accepted⟩ | ⟨occupied, _, refused⟩
  · simp [refused, nothing]
  · simp [accepted, writes.numeral_ne_nil]
  · simp [refused, occupied]

theorem parse_eq_invalid_iff (shown : Text) :
    parse text = .error (.invalid shown) ↔
      shown = Text.trim text ∧ (∀ address : Address, ¬Writes (Text.trim text) address.toNat) ∧
        ¬IsMark (Text.trim text) := by
  rw [← numeral_eq_nil_iff]
  rcases parse_cases text with ⟨nothing, refused⟩ | ⟨read, writes, accepted⟩ |
    ⟨occupied, unwritten, refused⟩
  · simp [refused, nothing]
  · rw [accepted]
    exact ⟨nofun, fun no => absurd writes (no.2.1 read)⟩
  · simp [refused, occupied, unwritten, eq_comm]

end Parse

theorem writes_display (address : Address) : Writes (display address) address.toNat :=
  ⟨"0x".toList, [], hexadecimal address.toNat, rfl, .inr (.inl rfl), .inl rfl,
    hexadecimal_ne_nil _, isHexDigit_hexadecimal _, hexValue_hexadecimal _⟩

theorem endsBlank_display (address : Address) : Text.endsBlank (display address) = false := by
  have whole : display address = ['0', 'x'] ++ hexadecimal address.toNat := rfl
  rw [whole, Text.endsBlank_append _ _ (hexadecimal_ne_nil _), Text.endsBlank,
    Option.any_eq_false]
  intro c last
  have digit := isHexDigit_hexadecimal _ c (List.mem_of_getLast? last)
  simp [isBlank_of_isHexDigit c digit]

theorem parse_display (address : Address) {before after : Text}
    (blank : ∀ c ∈ before, Text.isBlank c = true) (blankToo : ∀ c ∈ after, Text.isBlank c = true) :
    parse (before ++ (display address ++ after)) = .ok address := by
  have zero : Text.isBlank '0' = false := by decide
  have trims : Text.Trims (before ++ (display address ++ after)) (display address) :=
    ⟨before, after, rfl, blank, blankToo, by simp [display, zero], endsBlank_display address⟩
  rw [parse_eq_ok_iff, Text.trim_of_trims trims]
  exact writes_display address

theorem parse_exact :
    (∀ text, ∃! core, Text.Trims text core) ∧
    (∀ text core, Text.Trims text core →
      (∀ address : Address, parse text = .ok address ↔ Writes core address.toNat) ∧
      (parse text = .error .empty ↔ core = [] ∨ core = "0x".toList ∨ core = "0X".toList) ∧
      ∀ shown, parse text = .error (.invalid shown) ↔
        shown = core ∧ (∀ address : Address, ¬Writes core address.toNat) ∧
          ¬(core = [] ∨ core = "0x".toList ∨ core = "0X".toList)) ∧
    ∀ (address : Address) (before after : Text),
      (∀ c ∈ before, Text.isBlank c = true) → (∀ c ∈ after, Text.isBlank c = true) →
      parse (before ++ (display address ++ after)) = .ok address := by
  refine ⟨?_, ?_, ?_⟩
  · intro text
    exact ⟨Text.trim text, Text.trims_trim text, fun core => (Text.trims_iff text core).1⟩
  · intro text core trims
    obtain rfl := (Text.trims_iff text core).1 trims
    exact ⟨parse_eq_ok_iff text, parse_eq_empty_iff text, parse_eq_invalid_iff text⟩
  · exact fun address before after => parse_display address

theorem parse_signedDigits :
    let text := "\u3000 0X+00fF\n".toList
    Text.Trims text "0X+00fF".toList ∧ parse text = .ok 0xff := by
  intro text
  have trims : Text.Trims text "0X+00fF".toList := (Text.trims_iff _ _).2 (by decide)
  have hex : ∀ c ∈ "00fF".toList, isHexDigit c = true := List.all_eq_true.1 (by decide)
  have writes : Writes "0X+00fF".toList (0xff : Address).toNat :=
    ⟨"0X".toList, ['+'], "00fF".toList, rfl, .inr (.inr rfl), .inr rfl, by decide, hex, rfl⟩
  exact ⟨trims, ((parse_exact.2.1 text _ trims).1 0xff).2 writes⟩

end Symbolizer.Address
