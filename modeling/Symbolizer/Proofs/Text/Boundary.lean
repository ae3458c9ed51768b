import Symbolizer.Text.Basic
import Symbolizer.Text.Lossy

set_option autoImplicit false

namespace Symbolizer.Text

def isContinuation (byte : UInt8) : Bool :=
  0x80 ≤ byte && byte < 0xc0

def onBoundary (bytes : List UInt8) (offset : Nat) : Bool :=
  offset == 0 || bytes[offset]?.elim (offset == bytes.length) fun byte => !isContinuation byte

/-- The search fails rather than go below `least`. -/
def boundaryDown? (bytes : List UInt8) (least : Nat) : Nat → Option Nat
  | 0 => if onBoundary bytes 0 then some 0 else none
  | offset + 1 =>
      if onBoundary bytes (offset + 1) then some (offset + 1)
      else if least ≤ offset then boundaryDown? bytes least offset
      else none

def cutBytes? (limit : Nat) (bytes : List UInt8) : Option (List UInt8) :=
  if limit < bytes.length then (boundaryDown? bytes 0 limit).map fun stop => bytes.take stop
  else some bytes

structure LongestWithin (limit : Nat) (text kept : Text) : Prop where
  begins : kept <+: text
  fits : (encode kept).length ≤ limit
  longest : ∀ other, other <+: text → (encode other).length ≤ limit → other <+: kept

theorem length_encode (text : Text) : (encode text).length = byteLength text := by
  induction text with
  | nil => rfl
  | cons head rest ih =>
      rw [encode_cons, List.length_append, String.length_utf8EncodeChar, ih, byteLength]

theorem length_encode_append (before after : Text) :
    (encode (before ++ after)).length = (encode before).length + (encode after).length := by
  rw [encode_append, List.length_append]

theorem length_encode_le {before text : Text} (begins : before <+: text) :
    (encode before).length ≤ (encode text).length := by
  obtain ⟨after, rfl⟩ := begins
  rw [length_encode_append]
  omega

theorem longestWithin_takeBytes (limit : Nat) (text : Text) :
    LongestWithin limit text (takeBytes limit text) where
  begins := takeBytes_prefix limit text
  fits := by
    rw [length_encode]
    exact byteLength_takeBytes_le limit text
  longest := by
    intro other begins fits
    rw [length_encode] at fits
    exact begins_takeBytes begins fits

namespace LongestWithin

variable {limit : Nat} {text kept kept' : Text}

theorem unique (first : LongestWithin limit text kept) (second : LongestWithin limit text kept') :
    kept = kept' := by
  have inside := second.longest kept first.begins first.fits
  have around := first.longest kept' second.begins second.fits
  exact inside.eq_of_length_le around.length_le

theorem self (fits : (encode text).length ≤ limit) : LongestWithin limit text text :=
  ⟨List.prefix_refl text, fits, fun _ begins _ => begins⟩

theorem exists_next (longest : LongestWithin limit text kept) (cut : kept ≠ text) :
    ∃ c after, text = kept ++ c :: after ∧ limit < (encode kept).length + c.utf8Size := by
  obtain ⟨after, rfl⟩ := longest.begins
  cases after with
  | nil => simp at cut
  | cons c after =>
      refine ⟨c, after, rfl, Nat.lt_of_not_le fun room => ?_⟩
      -- With room for one character more, what is kept would not be the longest.
      have fits : (encode (kept ++ [c])).length ≤ limit := by
        rw [length_encode] at room ⊢
        simpa [byteLength_append, byteLength] using room
      have longer := longest.longest (kept ++ [c]) ⟨after, by simp⟩ fits
      exact absurd longer.length_le (by simp)

theorem limit_le (longest : LongestWithin limit text kept)
    (exceeds : limit < (encode text).length) : limit ≤ (encode kept).length + 3 := by
  have cut : kept ≠ text := by
    rintro rfl
    exact absurd longest.fits (Nat.not_le.2 exceeds)
  obtain ⟨c, _, _, noRoom⟩ := longest.exists_next cut
  have width := c.utf8Size_le_four
  omega

end LongestWithin

theorem isContinuation_ofNat_iff {code : Nat} (small : code < 256) :
    isContinuation (UInt8.ofNat code) = true ↔ 0x80 ≤ code ∧ code < 0xc0 := by
  have whole : (UInt8.ofNat code).toNat = code := by
    rw [UInt8.toNat_ofNat']
    omega
  simp [isContinuation, UInt8.le_iff_toNat_le, UInt8.lt_iff_toNat_lt, whole]

def sixBits (code : Nat) : UInt8 :=
  UInt8.ofNat (code % 64 + 0x80)

theorem isContinuation_sixBits (code : Nat) : isContinuation (sixBits code) = true :=
  (isContinuation_ofNat_iff (by omega)).2 (by omega)

theorem not_isContinuation_lead {code : Nat} (small : code < 256)
    (lead : code < 0x80 ∨ 0xc0 ≤ code) : isContinuation (UInt8.ofNat code) = false := by
  rw [← Bool.not_eq_true, isContinuation_ofNat_iff small]
  omega

theorem exists_lead_sixBits (c : Char) :
    ∃ lead, ∃ codes : List Nat, String.utf8EncodeChar c = lead :: codes.map sixBits ∧
      isContinuation lead = false := by
  unfold String.utf8EncodeChar
  generalize c.val.toNat = code
  simp only
  split
  next => exact ⟨_, [], rfl, not_isContinuation_lead (by omega) (by omega)⟩
  next =>
    split
    next => exact ⟨_, [code], rfl, not_isContinuation_lead (by omega) (by omega)⟩
    next =>
      split
      next =>
        exact ⟨_, [code / 64, code], rfl, not_isContinuation_lead (by omega) (by omega)⟩
      next =>
        exact ⟨_, [code / 4096, code / 64, code], rfl,
          not_isContinuation_lead (by omega) (by omega)⟩

theorem exists_encode_cons (c : Char) (after : Text) :
    ∃ lead, ∃ codes : List Nat,
      encode (c :: after) = lead :: (codes.map sixBits ++ encode after) ∧
      codes.length + 1 = c.utf8Size ∧ isContinuation lead = false := by
  obtain ⟨lead, codes, bytes, starts⟩ := exists_lead_sixBits c
  refine ⟨lead, codes, ?_, ?_, starts⟩
  · rw [encode_cons, bytes, List.cons_append]
  · simp [← String.length_utf8EncodeChar, bytes]

theorem onBoundary_between (before after : Text) :
    onBoundary (encode (before ++ after)) (encode before).length = true := by
  cases after with
  | nil => simp [onBoundary]
  | cons c after =>
      obtain ⟨lead, codes, bytes, _, starts⟩ := exists_encode_cons c after
      simp [onBoundary, encode_append, bytes, starts]

theorem not_onBoundary_within {before after : Text} {c : Char} {within : Nat}
    (begun : 0 < within) (unfinished : within < c.utf8Size) :
    onBoundary (encode (before ++ c :: after)) ((encode before).length + within) = false := by
  obtain ⟨lead, codes, bytes, width, _⟩ := exists_encode_cons c after
  obtain ⟨position, rfl⟩ := Nat.exists_eq_add_one.2 begun
  have small : position < codes.length := by omega
  have byte : (encode (before ++ c :: after))[(encode before).length + (position + 1)]? =
      some (sixBits codes[position]) := by
    rw [encode_append, bytes, List.getElem?_append_right (by omega)]
    simp [List.getElem?_append_left, small]
  simp [onBoundary, byte, isContinuation_sixBits]

theorem le_length_of_onBoundary {bytes : List UInt8} {offset : Nat}
    (boundary : onBoundary bytes offset = true) : offset ≤ bytes.length := by
  apply Nat.le_of_not_lt
  intro beyond
  have started : offset ≠ 0 := by omega
  have nothing : bytes[offset]? = none := List.getElem?_eq_none (by omega)
  have other : offset ≠ bytes.length := by omega
  simp [onBoundary, started, nothing, other] at boundary

theorem onBoundary_encode_iff (text : Text) (offset : Nat) :
    onBoundary (encode text) offset = true ↔
      ∃ before, before <+: text ∧ (encode before).length = offset := by
  constructor
  · intro boundary
    have longest := longestWithin_takeBytes offset text
    refine ⟨takeBytes offset text, longest.begins, Nat.le_antisymm longest.fits ?_⟩
    generalize takeBytes offset text = before at longest
    apply Nat.le_of_not_lt
    intro short
    by_cases whole : before = text
    · rw [whole] at short
      exact absurd (le_length_of_onBoundary boundary) (Nat.not_le.2 short)
    · obtain ⟨c, after, rfl, noRoom⟩ := longest.exists_next whole
      obtain ⟨within, rfl⟩ := Nat.exists_eq_add_of_le (Nat.le_of_lt short)
      have inside : onBoundary (encode (before ++ c :: after))
          ((encode before).length + within) = false :=
        not_onBoundary_within (by omega) (by omega)
      simp [inside] at boundary
  · rintro ⟨before, ⟨after, rfl⟩, rfl⟩
    exact onBoundary_between before after

theorem boundaryDown?_eq_some {bytes : List UInt8} {least stop start : Nat}
    (boundary : onBoundary bytes stop = true) (high : least ≤ stop) (low : stop ≤ start)
    (clear : ∀ offset, stop < offset → offset ≤ start → onBoundary bytes offset = false) :
    boundaryDown? bytes least start = some stop := by
  induction start with
  | zero =>
      obtain rfl : stop = 0 := Nat.le_zero.1 low
      simp [boundaryDown?, boundary]
  | succ start ih =>
      rcases Nat.eq_or_lt_of_le low with rfl | lower
      · simp [boundaryDown?, boundary]
      · have inside := clear (start + 1) lower (Nat.le_refl _)
        have allowed : least ≤ start := by omega
        have found := ih (by omega) fun offset above below => clear offset above (by omega)
        simpa [boundaryDown?, inside, allowed] using found

namespace LongestWithin

variable {limit least : Nat} {text kept : Text}

theorem boundaryDown?_encode (longest : LongestWithin limit text kept)
    (high : least ≤ (encode kept).length) :
    boundaryDown? (encode text) least limit = some (encode kept).length := by
  apply boundaryDown?_eq_some _ high longest.fits
  · intro offset above below
    rw [← Bool.not_eq_true, onBoundary_encode_iff]
    rintro ⟨other, begins, rfl⟩
    have shorter := length_encode_le (longest.longest other begins below)
    omega
  · exact (onBoundary_encode_iff text _).2 ⟨kept, longest.begins, rfl⟩

theorem cutBytes?_encode (longest : LongestWithin limit text kept) :
    cutBytes? limit (encode text) = some (encode kept) := by
  by_cases exceeds : limit < (encode text).length
  · have taken : (encode text).take (encode kept).length = encode kept := by
      obtain ⟨after, rfl⟩ := longest.begins
      rw [encode_append, List.take_left]
    simp [cutBytes?, exceeds, longest.boundaryDown?_encode (Nat.zero_le _), taken]
  · have whole : text = kept := (self (Nat.le_of_not_lt exceeds)).unique longest
    rw [cutBytes?, if_neg exceeds, whole]

end LongestWithin

end Symbolizer.Text
