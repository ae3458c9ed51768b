import Mathlib.Logic.Function.Defs
import Symbolizer.Address

set_option autoImplicit false

namespace Symbolizer

theorem decimal_injective : Function.Injective decimal :=
  Function.LeftInverse.injective (g := fun digits => Nat.ofDigitChars 10 digits 0) fun number => by
    simp [decimal]

theorem notMem_decimal (number : Nat) (c : Char) (other : c.isDigit = false) :
    c ∉ decimal number := by
  intro member
  simp [Nat.isDigit_of_mem_toDigits (by decide) (by decide) member] at other

theorem hexDigit?_digitChar : ∀ digit < 16, hexDigit? (Nat.digitChar digit) = some digit := by
  decide

theorem hexDigit?_eq_some_iff (c : Char) (digit : Nat) :
    hexDigit? c = some digit ↔
      (48 ≤ c.toNat ∧ c.toNat ≤ 57 ∧ digit = c.toNat - 48) ∨
        (97 ≤ c.toNat ∧ c.toNat ≤ 102 ∧ digit = c.toNat - 87) ∨
          (65 ≤ c.toNat ∧ c.toNat ≤ 70 ∧ digit = c.toNat - 55) := by
  have ends : '0'.toNat = 48 ∧ '9'.toNat = 57 ∧ 'a'.toNat = 97 ∧ 'f'.toNat = 102 ∧
      'A'.toNat = 65 ∧ 'F'.toNat = 70 := ⟨rfl, rfl, rfl, rfl, rfl, rfl⟩
  simp only [hexDigit?, Bool.and_eq_true, decide_eq_true_eq, Char.le_def,
    UInt32.le_iff_toNat_le, Char.toNat_val, ends]
  -- The three ranges are apart, so each is the case of one branch.
  split
  next => rw [Option.some.injEq]; omega
  next =>
    split
    next => rw [Option.some.injEq]; omega
    next =>
      split
      next => rw [Option.some.injEq]; omega
      next => simp only [reduceCtorEq, false_iff]; omega

theorem isHexDigit_iff (c : Char) :
    isHexDigit c = true ↔ (48 ≤ c.toNat ∧ c.toNat ≤ 57) ∨ (97 ≤ c.toNat ∧ c.toNat ≤ 102) ∨
      (65 ≤ c.toNat ∧ c.toNat ≤ 70) := by
  simp only [isHexDigit, Option.isSome_iff_exists, hexDigit?_eq_some_iff, exists_or,
    exists_and_left, exists_eq, and_true]

theorem hexDigit?_lt (c : Char) (digit : Nat) (read : hexDigit? c = some digit) : digit < 16 := by
  rw [hexDigit?_eq_some_iff] at read
  omega

theorem hexValue_append (digits : Text) (c : Char) :
    hexValue (digits ++ [c]) = hexValue digits * 16 + (hexDigit? c).getD 0 := by
  simp [hexValue]

theorem hexadecimal_of_lt (number : Nat) (small : number < 16) :
    hexadecimal number = [Nat.digitChar number] :=
  Nat.toDigits_of_lt_base small

theorem hexadecimal_of_le (number : Nat) (large : 16 ≤ number) :
    hexadecimal number = hexadecimal (number / 16) ++ [Nat.digitChar (number % 16)] :=
  Nat.toDigits_of_base_le (by decide) large

theorem hexValue_hexadecimal (number : Nat) : hexValue (hexadecimal number) = number := by
  -- The last digit goes off the number by a division, so the induction is on all smaller ones.
  induction number using Nat.strongRecOn with
  | ind number ih =>
      by_cases small : number < 16
      · rw [hexadecimal_of_lt number small]
        simp [hexValue, hexDigit?_digitChar number small]
      · rw [hexadecimal_of_le number (by omega), hexValue_append, ih (number / 16) (by omega),
          hexDigit?_digitChar (number % 16) (by omega)]
        simp only [Option.getD_some]
        omega

theorem exists_digit_of_mem_hexadecimal (number : Nat) :
    ∀ c ∈ hexadecimal number, ∃ digit < 16, c = Nat.digitChar digit := by
  induction number using Nat.strongRecOn with
  | ind number ih =>
      by_cases small : number < 16
      · simpa [hexadecimal_of_lt number small] using ⟨number, small, rfl⟩
      · rw [hexadecimal_of_le number (by omega), List.forall_mem_append]
        refine ⟨ih (number / 16) (by omega), ?_⟩
        simpa using ⟨number % 16, by omega, rfl⟩

theorem isHexDigit_hexadecimal (number : Nat) :
    ∀ c ∈ hexadecimal number, isHexDigit c = true := by
  intro c member
  obtain ⟨digit, small, rfl⟩ := exists_digit_of_mem_hexadecimal number c member
  simp [isHexDigit, hexDigit?_digitChar digit small]

theorem hexadecimal_ne_nil (number : Nat) : hexadecimal number ≠ [] := by
  simp [hexadecimal]

theorem hexadecimal_injective : Function.Injective hexadecimal :=
  Function.LeftInverse.injective hexValue_hexadecimal

theorem notMem_hexadecimal (number : Nat) (c : Char) (other : isHexDigit c = false) :
    c ∉ hexadecimal number := by
  intro member
  simp [isHexDigit_hexadecimal number c member] at other

theorem hexValue_replicate_append (zeros : Nat) (digits : Text) :
    hexValue (List.replicate zeros '0' ++ digits) = hexValue digits := by
  induction zeros with
  | zero => rfl
  | succ zeros ih => exact ih

theorem toNat_toLower (c : Char) :
    c.toLower.toNat = if 65 ≤ c.toNat ∧ c.toNat ≤ 90 then c.toNat + 32 else c.toNat := by
  have range : (c.val ≥ 'A'.val ∧ c.val ≤ 'Z'.val) ↔ 65 ≤ c.toNat ∧ c.toNat ≤ 90 := by
    simp [UInt32.le_iff_toNat_le]
  by_cases upper : 65 ≤ c.toNat ∧ c.toNat ≤ 90
  · have lowered : c.toLower.toNat = (c.val + ('a'.val - 'A'.val)).toNat :=
      congrArg Char.toNat (dif_pos (range.2 upper))
    have sum : (c.val + ('a'.val - 'A'.val)).toNat = (c.val.toNat + 32) % 2 ^ 32 := rfl
    rw [lowered, sum, Char.toNat_val, if_pos upper]
    omega
  · have same : c.toLower = c := dif_neg (upper ∘ range.1)
    rw [same, if_neg upper]

theorem hexDigit?_toLower (c : Char) : hexDigit? c.toLower = hexDigit? c := by
  apply Option.ext
  intro digit
  rw [hexDigit?_eq_some_iff, hexDigit?_eq_some_iff, toNat_toLower]
  split <;> omega

theorem hexValue_map_toLower (digits : Text) :
    hexValue (digits.map Char.toLower) = hexValue digits := by
  simp [hexValue, List.foldl_map, hexDigit?_toLower]

def Spells (digits : Text) (number : Nat) : Prop :=
  ∃ zeros, digits.map Char.toLower = List.replicate zeros '0' ++ hexadecimal number

namespace Spells

variable {digits : Text} {number : Nat}

theorem hexValue_eq (spells : Spells digits number) : hexValue digits = number := by
  obtain ⟨zeros, lowered⟩ := spells
  rw [← hexValue_map_toLower, lowered, hexValue_replicate_append, hexValue_hexadecimal]

theorem hex (spells : Spells digits number) : ∀ c ∈ digits, isHexDigit c = true := by
  obtain ⟨zeros, lowered⟩ := spells
  intro c member
  have spelled : c.toLower ∈ List.replicate zeros '0' ++ hexadecimal number := by
    simpa [← lowered] using List.mem_map_of_mem (f := Char.toLower) member
  have lower : isHexDigit c.toLower = true := by
    rcases List.mem_append.1 spelled with zero | digit
    · simp [List.eq_of_mem_replicate zero, show isHexDigit '0' = true by decide]
    · exact isHexDigit_hexadecimal number _ digit
  simpa [isHexDigit, hexDigit?_toLower] using lower

theorem ne_nil (spells : Spells digits number) : digits ≠ [] := by
  obtain ⟨zeros, lowered⟩ := spells
  intro empty
  simp [empty, hexadecimal] at lowered

theorem padded (zeros number : Nat) :
    Spells (List.replicate zeros '0' ++ hexadecimal number) number := by
  have lower : ∀ digit < 16, (Nat.digitChar digit).toLower = Nat.digitChar digit := by decide
  have same : (hexadecimal number).map Char.toLower = hexadecimal number := by
    have fixed : ∀ c ∈ hexadecimal number, c.toLower = id c := by
      intro c member
      obtain ⟨digit, small, rfl⟩ := exists_digit_of_mem_hexadecimal number c member
      exact lower digit small
    simp [List.map_congr_left fixed]
  exact ⟨zeros, by simp [same]⟩

end Spells

theorem toNat_pushDigit {word : UInt64} {digit : Nat} (room : word < wordRoom)
    (small : digit < 16) : (word * 16 + digit.toUInt64).toNat = word.toNat * 16 + digit := by
  have bound : word.toNat < 2 ^ 60 := UInt64.lt_iff_toNat_lt.1 room
  have whole : digit.toUInt64.toNat = digit := by
    simp
    omega
  rw [UInt64.toNat_add, UInt64.toNat_mul, whole]
  simp
  omega

theorem clampDigit_toNat (word : UInt64) (c : Char) (value : Nat)
    (reads : word.toNat = min value largestWord.toNat) :
    (clampDigit word c).toNat = min (value * 16 + (hexDigit? c).getD 0) largestWord.toNat := by
  have digit : (hexDigit? c).getD 0 < 16 := by
    cases read : hexDigit? c with
    | none => simp
    | some digit => exact hexDigit?_lt c digit read
  have largest : largestWord.toNat = 2 ^ 64 - 1 := rfl
  rw [largest] at reads ⊢
  unfold clampDigit
  split
  next room =>
    have bound : word.toNat < 2 ^ 60 := UInt64.lt_iff_toNat_lt.1 room
    rw [toNat_pushDigit room digit]
    omega
  next full =>
    have bound : 2 ^ 60 ≤ word.toNat := UInt64.le_iff_toNat_le.1 (UInt64.not_lt.1 full)
    rw [largest]
    omega

theorem foldl_clampDigit_toNat (digits : Text) (word : UInt64) (value : Nat)
    (reads : word.toNat = min value largestWord.toNat) :
    (digits.foldl clampDigit word).toNat =
      min (digits.foldl (fun value c => value * 16 + (hexDigit? c).getD 0) value)
        largestWord.toNat := by
  induction digits generalizing word value with
  | nil => exact reads
  | cons c rest ih => exact ih _ _ (clampDigit_toNat word c value reads)

theorem readClamped_toNat (digits : Text) :
    (readClamped digits).toNat = min (hexValue digits) largestWord.toNat :=
  foldl_clampDigit_toNat digits 0 0 rfl

theorem exactDigit?_eq_some_iff (word next : UInt64) (c : Char) :
    exactDigit? word c = some next ↔
      isHexDigit c = true ∧ next.toNat = word.toNat * 16 + (hexDigit? c).getD 0 := by
  unfold exactDigit? isHexDigit
  cases read : hexDigit? c with
  | none => simp
  | some digit =>
      have small := hexDigit?_lt c digit read
      by_cases room : word < wordRoom
      · simp [room, ← UInt64.toNat_inj, toNat_pushDigit room small, eq_comm]
      · -- The word is too large for one more digit, and so is the number.
        have full : 2 ^ 60 ≤ word.toNat := UInt64.le_iff_toNat_le.1 (UInt64.not_lt.1 room)
        have bounded := next.toNat_lt
        have exceeds : next.toNat ≠ word.toNat * 16 + digit := by omega
        simp [room, exceeds]

theorem le_foldl_hexDigit? (value : Nat) (digits : Text) :
    value ≤ digits.foldl (fun value c => value * 16 + (hexDigit? c).getD 0) value := by
  induction digits generalizing value with
  | nil => exact Nat.le_refl value
  | cons c rest ih =>
      have next := ih (value * 16 + (hexDigit? c).getD 0)
      rw [List.foldl_cons]
      omega

theorem foldlM_exactDigit?_eq_some_iff (digits : Text) (word read : UInt64) :
    digits.foldlM exactDigit? word = some read ↔
      (∀ c ∈ digits, isHexDigit c = true) ∧
        digits.foldl (fun value c => value * 16 + (hexDigit? c).getD 0) word.toNat =
          read.toNat := by
  induction digits generalizing word with
  | nil => simp [UInt64.toNat_inj]
  | cons c rest ih =>
      rw [List.foldlM_cons, List.forall_mem_cons, List.foldl_cons]
      simp only [Option.bind_eq_bind, Option.bind_eq_some_iff, exactDigit?_eq_some_iff, ih]
      constructor
      · rintro ⟨next, ⟨hex, pushed⟩, others, value⟩
        exact ⟨⟨hex, others⟩, pushed ▸ value⟩
      · rintro ⟨⟨hex, others⟩, value⟩
        -- Digits only make a number larger: where the whole run fits, so does its first part.
        have least := le_foldl_hexDigit? (word.toNat * 16 + (hexDigit? c).getD 0) rest
        have bounded : read.toNat < UInt64.size := read.toNat_lt
        have fits : (UInt64.ofNat (word.toNat * 16 + (hexDigit? c).getD 0)).toNat =
            word.toNat * 16 + (hexDigit? c).getD 0 := UInt64.toNat_ofNat_of_lt' (by omega)
        exact ⟨_, ⟨hex, fits⟩, others, fits.symm ▸ value⟩

theorem readExact?_eq_some_iff (digits : Text) (word : UInt64) :
    readExact? digits = some word ↔
      (∀ c ∈ digits, isHexDigit c = true) ∧ hexValue digits = word.toNat :=
  foldlM_exactDigit?_eq_some_iff digits 0 word

end Symbolizer
