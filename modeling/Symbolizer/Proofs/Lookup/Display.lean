import Symbolizer.Proofs.Numeral
import Symbolizer.Proofs.Text.Boundary
import Symbolizer.Table.Basic

set_option autoImplicit false

namespace Symbolizer

theorem Text.takeBytes_nameLimit (name : Text) :
    let kept := takeBytes nameLimit name
    LongestWithin 99 name kept ∧
      ((encode name).length ≤ 99 → kept = name) ∧
      cutBytes? 99 (encode name) = some (encode kept) ∧
      (99 < (encode name).length →
        boundaryDown? (encode name) 96 99 = some (encode kept).length ∧
          96 ≤ (encode kept).length) ∧
      takeBytes nameLimit kept = kept := by
  intro kept
  have longest : LongestWithin 99 name kept := longestWithin_takeBytes nameLimit name
  refine ⟨longest, ?_, longest.cutBytes?_encode, ?_, ?_⟩
  · intro fits
    exact longest.unique (LongestWithin.self fits)
  · intro exceeds
    have most := longest.limit_le exceeds
    have least : 96 ≤ (encode kept).length := by omega
    exact ⟨longest.boundaryDown?_encode least, least⟩
  · have again : LongestWithin 99 kept (takeBytes nameLimit kept) :=
      longestWithin_takeBytes nameLimit kept
    exact again.unique (LongestWithin.self longest.fits)

-- A character of four bytes of which three would fit.
example :
    let name := List.replicate 96 'a' ++ ['😀']
    Text.takeBytes nameLimit name = List.replicate 96 'a' := by
  decide

namespace Address

theorem display_injective : Function.Injective display := by
  intro address other same
  have digits : hexadecimal address.toNat = hexadecimal other.toNat := by
    simpa [display] using same
  exact UInt64.toNat_inj.1 (hexadecimal_injective digits)

theorem notMem_display (address : Address) (c : Char) (other : isHexDigit c = false)
    (notMark : c ≠ 'x') : c ∉ display address := by
  have notZero : c ≠ '0' := by
    rintro rfl
    exact absurd other (by decide)
  simp [display, notZero, notMark, notMem_hexadecimal _ c other]

end Address

theorem Resolved.display_unambiguous : Function.Injective display := by
  intro resolved shown same
  have layout (resolved : Resolved) : resolved.display =
      (resolved.name ++ '+' :: Address.display resolved.offset) ++
        '/' :: Address.display resolved.size := rfl
  have noSlash (address : Address) : '/' ∉ Address.display address :=
    address.notMem_display '/' rfl (by decide)
  have noPlus (address : Address) : '+' ∉ Address.display address :=
    address.notMem_display '+' rfl (by decide)
  rw [layout, layout] at same
  -- From the left the name could not be told from what follows it.
  obtain ⟨front, size⟩ := Text.append_separator_inj_right (noSlash _) (noSlash _) same
  obtain ⟨name, offset⟩ := Text.append_separator_inj_right (noPlus _) (noPlus _) front
  have sameOffset := Address.display_injective offset
  have sameSize := Address.display_injective size
  cases resolved
  cases shown
  simp_all

example : Resolved.display ⟨"f+0x1/0x2".toList, 3, 4⟩ = "f+0x1/0x2+0x3/0x4".toList := by
  decide

end Symbolizer
