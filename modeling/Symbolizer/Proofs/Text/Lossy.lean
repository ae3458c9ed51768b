import Symbolizer.Text.Lossy

set_option autoImplicit false

namespace Symbolizer.Text

structure Begun.Sound (begun : Begun) : Prop where
  continues : 0x80 ≤ begun.low
  large : (if begun.missing = 1 then 0x80 else 2) ≤ begun.bits * 64 + (begun.low.toNat - 0x80)

theorem begin?_sound (byte : UInt8) (begun : Begun) (begins : begin? byte = some begun) :
    begun.Sound := by
  unfold begin? at begins
  repeat' split at begins
  all_goals simp only [Option.some.injEq, reduceCtorEq] at begins
  all_goals subst begins
  all_goals constructor
  all_goals simp_all [UInt8.le_iff_toNat_le]
  all_goals omega

theorem decodeFrom_cons (state : Option Begun) (byte : UInt8) (rest : List UInt8) :
    decodeFrom state (byte :: rest) =
      (readByte state byte).1 ++ decodeFrom (readByte state byte).2 rest := rfl

def Ready (state : Option Begun) : Prop :=
  ∀ begun ∈ state, begun.Sound

theorem ready_none : Ready none := by
  simp [Ready]

theorem readFresh_ready (byte : UInt8) : Ready (readFresh byte).2 := by
  unfold readFresh
  split
  · exact ready_none
  · split
    next begun begins =>
      intro other same
      simp only [Option.mem_def, Option.some.injEq] at same
      exact same ▸ begin?_sound byte begun begins
    next => exact ready_none

theorem readByte_ready (state : Option Begun) (ready : Ready state) (byte : UInt8) :
    Ready (readByte state byte).2 := by
  cases state with
  | none => exact readFresh_ready byte
  | some begun =>
      have sound := ready begun rfl
      simp only [readByte]
      split
      next inside =>
        split
        · exact ready_none
        · intro other same
          simp only [Option.mem_def, Option.some.injEq] at same
          subst same
          have large := sound.large
          have low := sound.continues
          simp only [Bool.and_eq_true, decide_eq_true_eq, UInt8.le_iff_toNat_le] at inside low
          constructor
          · simp
          · have enough : 2 ≤ begun.bits * 64 + (byte.toNat - 0x80) := by
              split at large <;> omega
            simp
            split <;> omega
      next => exact readFresh_ready byte

theorem ofNat_ne_newline (code : Nat) (other : code ≠ 10) : Char.ofNat code ≠ '\n' := by
  by_cases valid : code.isValidChar
  · have back : (Char.ofNat code).toNat = code := by
      rw [Char.ofNat, dif_pos valid]
      rfl
    intro same
    rw [same] at back
    exact other back.symm
  · rw [Char.ofNat, dif_neg valid]
    decide

theorem newline_notMem_readFresh (byte : UInt8) (other : byte ≠ 0x0a) :
    '\n' ∉ (readFresh byte).1 := by
  unfold readFresh
  split
  · have code : byte.toNat ≠ 10 := fun same => other (UInt8.toNat_inj.1 same)
    simpa using (ofNat_ne_newline byte.toNat code).symm
  · split
    · simp
    · simp [replacement]

theorem newline_notMem_readByte (state : Option Begun) (ready : Ready state) (byte : UInt8)
    (other : byte ≠ 0x0a) : '\n' ∉ (readByte state byte).1 := by
  cases state with
  | none => exact newline_notMem_readFresh byte other
  | some begun =>
      have sound := ready begun rfl
      simp only [readByte]
      split
      next inside =>
        split
        next complete =>
          have large := sound.large
          simp only [complete, if_true] at large
          simp only [Bool.and_eq_true, decide_eq_true_eq, UInt8.le_iff_toNat_le] at inside
          have code : begun.bits * 64 + (byte.toNat - 0x80) ≠ 10 := by omega
          simpa using (ofNat_ne_newline _ code).symm
        next => simp
      next =>
        have fresh := newline_notMem_readFresh byte other
        simpa [replacement] using fresh

theorem newline_notMem_decodeFrom (state : Option Begun) (ready : Ready state)
    (bytes : List UInt8) (closed : 0x0a ∉ bytes) : '\n' ∉ decodeFrom state bytes := by
  induction bytes generalizing state with
  | nil => cases state <;> simp [decodeFrom, replacement]
  | cons byte rest ih =>
      simp only [List.mem_cons, not_or] at closed
      have here := newline_notMem_readByte state ready byte (Ne.symm closed.1)
      have behind := ih _ (readByte_ready state ready byte) closed.2
      simp [decodeFrom, here, behind]

theorem newline_notMem_decode (bytes : List UInt8) (closed : 0x0a ∉ bytes) :
    '\n' ∉ decode bytes :=
  newline_notMem_decodeFrom none ready_none bytes closed

theorem readByte_newline (state : Option Begun) (ready : Ready state) :
    readByte state 0x0a = (decodeFrom state [] ++ ['\n'], none) := by
  cases state with
  | none => rfl
  | some begun =>
      -- No range of continuation bytes goes down to the line end.
      have outside : ¬begun.low ≤ 0x0a := by
        have low := (ready begun rfl).continues
        simp only [UInt8.le_iff_toNat_le] at low ⊢
        simp at low ⊢
        omega
      simp only [readByte, outside, decide_false, Bool.false_and]
      rfl

theorem decodeFrom_append_newline (state : Option Begun) (ready : Ready state)
    (line rest : List UInt8) :
    decodeFrom state (line ++ 0x0a :: rest) = decodeFrom state line ++ '\n' :: decode rest := by
  -- What is begun before a byte stays sound behind it, up to the line end.
  induction line generalizing state with
  | nil =>
      rw [List.nil_append, decodeFrom_cons, readByte_newline state ready, List.append_assoc]
      rfl
  | cons byte line ih =>
      rw [List.cons_append, decodeFrom_cons, decodeFrom_cons,
        ih _ (readByte_ready state ready byte), List.append_assoc]

theorem decode_append_newline (line rest : List UInt8) :
    decode (line ++ 0x0a :: rest) = decode line ++ '\n' :: decode rest :=
  decodeFrom_append_newline none ready_none line rest

theorem decodeFrom_some_ne_nil (begun : Begun) (bytes : List UInt8) :
    decodeFrom (some begun) bytes ≠ [] := by
  induction bytes generalizing begun with
  | nil => simp [decodeFrom]
  | cons byte rest ih =>
      simp only [decodeFrom, readByte]
      split
      · split
        · simp
        · simpa using ih _
      · simp

theorem decode_eq_nil_iff (bytes : List UInt8) : decode bytes = [] ↔ bytes = [] := by
  constructor
  · intro empty
    cases bytes with
    | nil => rfl
    | cons byte rest =>
        simp only [decode, decodeFrom, readByte, readFresh] at empty
        split at empty
        · simp at empty
        · split at empty
          · exact absurd empty (decodeFrom_some_ne_nil _ _)
          · simp at empty
  · intro nothing
    rw [nothing]
    rfl

end Symbolizer.Text
