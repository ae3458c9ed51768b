import Symbolizer.Proofs.Text.Lossy

set_option autoImplicit false

namespace Symbolizer.Text

theorem readByte_ascii (code : Nat) (ascii : code ≤ 0x7f) :
    readByte none (UInt8.ofNat code) = ([Char.ofNat code], none) := by
  have whole : (UInt8.ofNat code).toNat = code := by
    rw [UInt8.toNat_ofNat']
    omega
  have small : UInt8.ofNat code < 0x80 := by
    rw [UInt8.lt_iff_toNat_lt, whole]
    simp
    omega
  simp [readByte, readFresh, small, whole]

theorem readByte_leadOfTwo : ∀ bits : Fin 32, 2 ≤ bits.val →
    readByte none (UInt8.ofNat (bits + 0xc0)) = ([], some ⟨bits, 1, 0x80, 0xbf⟩) := by
  decide

theorem readByte_leadOfThree : ∀ bits : Fin 16,
    readByte none (UInt8.ofNat (bits + 0xe0)) =
      ([], some ⟨bits, 2, if bits.val = 0 then 0xa0 else 0x80,
        if bits.val = 0xd then 0x9f else 0xbf⟩) := by
  decide

theorem readByte_leadOfFour : ∀ bits : Fin 5,
    readByte none (UInt8.ofNat (bits + 0xf0)) =
      ([], some ⟨bits, 3, if bits.val = 0 then 0x90 else 0x80,
        if bits.val = 4 then 0x8f else 0xbf⟩) := by
  decide

theorem readByte_continuation (bits missing six : Nat) (low high : UInt8) (fits : six < 64)
    (least : low.toNat ≤ six + 0x80) (greatest : six + 0x80 ≤ high.toNat) :
    readByte (some ⟨bits, missing, low, high⟩) (UInt8.ofNat (six + 0x80)) =
      if missing = 1 then ([Char.ofNat (bits * 64 + six)], none)
      else ([], some ⟨bits * 64 + six, missing - 1, 0x80, 0xbf⟩) := by
  have whole : (UInt8.ofNat (six + 0x80)).toNat = six + 0x80 := by
    rw [UInt8.toNat_ofNat']
    omega
  generalize UInt8.ofNat (six + 0x80) = byte at whole
  have inside : low ≤ byte ∧ byte ≤ high := by
    rw [UInt8.le_iff_toNat_le, UInt8.le_iff_toNat_le, whole]
    exact ⟨least, greatest⟩
  simp [readByte, inside, whole]

theorem decodeFrom_last (bits six : Nat) (low high : UInt8) (rest : List UInt8) (fits : six < 64)
    (least : low.toNat ≤ six + 0x80) (greatest : six + 0x80 ≤ high.toNat) :
    decodeFrom (some ⟨bits, 1, low, high⟩) (UInt8.ofNat (six + 0x80) :: rest) =
      Char.ofNat (bits * 64 + six) :: decode rest := by
  rw [decodeFrom_cons, readByte_continuation bits 1 six low high fits least greatest]
  rfl

theorem decodeFrom_more (bits missing six : Nat) (low high : UInt8) (rest : List UInt8)
    (fits : six < 64) (least : low.toNat ≤ six + 0x80) (greatest : six + 0x80 ≤ high.toNat) :
    decodeFrom (some ⟨bits, missing + 2, low, high⟩) (UInt8.ofNat (six + 0x80) :: rest) =
      decodeFrom (some ⟨bits * 64 + six, missing + 1, 0x80, 0xbf⟩) rest := by
  rw [decodeFrom_cons, readByte_continuation bits (missing + 2) six low high fits least greatest]
  simp

theorem decode_two (first second : Nat) (rest : List UInt8) (fits : first < 32 ∧ second < 64)
    (shortest : 0x80 ≤ first * 64 + second) :
    decode (UInt8.ofNat (first + 0xc0) :: UInt8.ofNat (second + 0x80) :: rest) =
      Char.ofNat (first * 64 + second) :: decode rest := by
  have lead := readByte_leadOfTwo ⟨first, fits.1⟩ (by simp; omega)
  rw [decode, decodeFrom_cons, lead, List.nil_append,
    decodeFrom_last first second _ _ rest fits.2 (by simp) (by simp; omega)]

theorem decode_three (first second third : Nat) (rest : List UInt8)
    (fits : first < 16 ∧ second < 64 ∧ third < 64)
    (shortest : 0x800 ≤ (first * 64 + second) * 64 + third)
    (valid : (first * 64 + second) * 64 + third < 0xd800 ∨
      0xdfff < (first * 64 + second) * 64 + third) :
    decode (UInt8.ofNat (first + 0xe0) :: UInt8.ofNat (second + 0x80) ::
        UInt8.ofNat (third + 0x80) :: rest) =
      Char.ofNat ((first * 64 + second) * 64 + third) :: decode rest := by
  have lead := readByte_leadOfThree ⟨first, fits.1⟩
  -- An overlong form would have a lower second byte, a surrogate a higher one.
  have least : (if first = 0 then 0xa0 else 0x80 : UInt8).toNat ≤ second + 0x80 := by
    split <;> simp
    omega
  have greatest : second + 0x80 ≤ (if first = 0xd then 0x9f else 0xbf : UInt8).toNat := by
    split <;> (simp; omega)
  rw [decode, decodeFrom_cons, lead, List.nil_append,
    decodeFrom_more first 0 second _ _ _ fits.2.1 least greatest,
    decodeFrom_last _ third _ _ rest fits.2.2 (by simp) (by simp; omega)]

theorem decode_four (first second third fourth : Nat) (rest : List UInt8)
    (fits : first < 5 ∧ second < 64 ∧ third < 64 ∧ fourth < 64)
    (shortest : 0x10000 ≤ ((first * 64 + second) * 64 + third) * 64 + fourth)
    (valid : ((first * 64 + second) * 64 + third) * 64 + fourth < 0x110000) :
    decode (UInt8.ofNat (first + 0xf0) :: UInt8.ofNat (second + 0x80) ::
        UInt8.ofNat (third + 0x80) :: UInt8.ofNat (fourth + 0x80) :: rest) =
      Char.ofNat (((first * 64 + second) * 64 + third) * 64 + fourth) :: decode rest := by
  have lead := readByte_leadOfFour ⟨first, fits.1⟩
  have least : (if first = 0 then 0x90 else 0x80 : UInt8).toNat ≤ second + 0x80 := by
    split <;> simp
    omega
  have greatest : second + 0x80 ≤ (if first = 4 then 0x8f else 0xbf : UInt8).toNat := by
    split <;> (simp; omega)
  rw [decode, decodeFrom_cons, lead, List.nil_append,
    decodeFrom_more first 1 second _ _ _ fits.2.1 least greatest,
    decodeFrom_more _ 0 third _ _ _ fits.2.2.1 (by simp) (by simp; omega),
    decodeFrom_last _ fourth _ _ rest fits.2.2.2 (by simp) (by simp; omega)]

theorem toNat_valid (c : Char) : c.toNat < 0xd800 ∨ 0xdfff < c.toNat ∧ c.toNat < 0x110000 :=
  c.valid

theorem decode_encodeChar (c : Char) (rest : List UInt8) :
    decode (String.utf8EncodeChar c ++ rest) = c :: decode rest := by
  have valid := toNat_valid c
  have back : Char.ofNat c.toNat = c := Char.ofNat_toNat c
  have same : c.val.toNat = c.toNat := rfl
  unfold String.utf8EncodeChar
  simp only [same]
  generalize c.toNat = code at *
  split
  next one =>
    rw [List.singleton_append, decode, decodeFrom_cons, readByte_ascii code one, back]
    rfl
  next =>
    split
    next =>
      have digits : code / 64 % 32 * 64 + code % 64 = code := by omega
      have read := decode_two (code / 64 % 32) (code % 64) rest (by omega) (by omega)
      rwa [digits, back] at read
    next =>
      split
      next =>
        have digits : (code / 4096 % 16 * 64 + code / 64 % 64) * 64 + code % 64 = code := by omega
        have read := decode_three (code / 4096 % 16) (code / 64 % 64) (code % 64) rest
          (by omega) (by omega) (by omega)
        rwa [digits, back] at read
      next =>
        have digits : ((code / 262144 % 8 * 64 + code / 4096 % 64) * 64 + code / 64 % 64) * 64 +
            code % 64 = code := by omega
        have read := decode_four (code / 262144 % 8) (code / 4096 % 64) (code / 64 % 64)
          (code % 64) rest (by omega) (by omega) (by omega)
        rwa [digits, back] at read

theorem decode_encode (text : Text) : decode (encode text) = text := by
  induction text with
  | nil => rfl
  | cons c rest ih => rw [encode_cons, decode_encodeChar, ih]

end Symbolizer.Text
