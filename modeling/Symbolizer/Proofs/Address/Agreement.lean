import Symbolizer.Proofs.Address.Asked

set_option autoImplicit false

namespace Symbolizer.Address

def Signed (text : Text) : Prop :=
  ∃ mark rest, Text.trim text = mark ++ '+' :: rest ∧ IsMark mark

theorem isHexDigit_of_isBlank (c : Char) (blank : Text.isBlank c = true) :
    isHexDigit c = false := by
  rw [← Bool.not_eq_true]
  intro hex
  simp [isBlank_of_isHexDigit c hex] at blank

theorem not_endsMark_of_blanks {blanks : Text} (blank : ∀ c ∈ blanks, Text.isBlank c = true) :
    ¬EndsMark blanks := by
  rintro ⟨x, digit, rest, rfl, isX, _⟩
  have xBlank : Text.isBlank x = true := blank x (by simp)
  have neither : Text.isBlank 'x' = false ∧ Text.isBlank 'X' = false := by decide
  rcases isX with rfl | rfl <;> simp [neither] at xBlank

theorem readLeading_of_unsigned {text : Text} {address : Address}
    (accepted : parse text = .ok address) (unsigned : ¬Signed text) :
    readLeading text = address := by
  obtain ⟨mark, sign, digits, core, isMark, isSign, occupied, hex, value⟩ :=
    (parse_eq_ok_iff text address).1 accepted
  obtain ⟨before, after, whole, blank, blankToo, _⟩ := Text.trims_trim text
  rcases isSign with rfl | rfl
  · have stops : ∀ c ∈ after.head?, isHexDigit c = false :=
      fun c first => isHexDigit_of_isBlank c (blankToo c (List.mem_of_mem_head? first))
    have leads : Leads text digits := by
      have found := leads_of_digits blank isMark stops
        (fun _ _ => not_endsMark_of_blanks blankToo) occupied hex
      rw [whole, core]
      simpa using found
    have small := address.toNat_lt
    apply UInt64.toNat_inj.1
    rw [readLeading_of_leads leads, value]
    omega
  · exact absurd ⟨mark, digits, core, isMark⟩ unsigned

section Sign

variable {mark : Text} (isMark : IsMark mark) (rest : Text)

include isMark

theorem unmarked_of_sign : Unmarked (mark ++ '+' :: rest) (mark ++ '+' :: rest) := by
  apply Unmarked.plain
  rintro _ same ⟨x, digit, others, rfl, _, hex⟩
  -- Behind a mark stands the sign, where a digit would have to be.
  have plus : digit = '+' := by
    rcases isMark with rfl | rfl | rfl
    · simp at same
    · have parts : 'x' = x ∧ '+' = digit ∧ rest = others := by simpa using same
      exact parts.2.1.symm
    · have parts : 'X' = x ∧ '+' = digit ∧ rest = others := by simpa using same
      exact parts.2.1.symm
  exact absurd (plus ▸ hex) (by decide)

theorem exists_zeros_before_sign :
    ∃ zeros after, mark ++ '+' :: rest = zeros ++ after ∧ (zeros = [] ∨ zeros = ['0']) ∧
      ∀ c ∈ after.head?, isHexDigit c = false := by
  rcases isMark with rfl | rfl | rfl
  · exact ⟨[], _, rfl, .inl rfl, by simpa using by decide⟩
  · exact ⟨['0'], _, rfl, .inr rfl, by simpa using by decide⟩
  · exact ⟨['0'], _, rfl, .inr rfl, by simpa using by decide⟩

end Sign

theorem readLeading_of_signed {text : Text} (signed : Signed text) : readLeading text = 0 := by
  obtain ⟨mark, rest, core, isMark⟩ := signed
  obtain ⟨before, behind, whole, blank, _, visible, _⟩ := Text.trims_trim text
  rw [core] at whole visible
  obtain ⟨zeros, after, split, isZeros, stops⟩ := exists_zeros_before_sign isMark (rest ++ behind)
  have shown : ∀ c ∈ (mark ++ '+' :: (rest ++ behind)).head?, Text.isBlank c = false := by
    rcases isMark with rfl | rfl | rfl <;> exact visible
  have leads : Leads text zeros := by
    refine ⟨before, _, _, after, ?_, blank, shown, unmarked_of_sign isMark _, split, ?_, stops⟩
    · simpa using whole
    · rcases isZeros with rfl | rfl <;> simp [isHexDigit, hexDigit?]
  have nothing : hexValue zeros = 0 := by
    rcases isZeros with rfl | rfl <;> rfl
  apply UInt64.toNat_inj.1
  simpa [nothing] using readLeading_of_leads leads

theorem readLeading_of_parse (text : Text) (address : Address)
    (accepted : parse text = .ok address) :
    (¬Signed text → readLeading text = address) ∧ (Signed text → readLeading text = 0) :=
  ⟨readLeading_of_unsigned accepted, readLeading_of_signed⟩

theorem readLeading_of_asked :
    let plain := " 0X00fF\t".toList
    let signed := "0x+1".toList
    (parse plain = .ok 0xff ∧ ¬Signed plain ∧ readLeading plain = 0xff) ∧
      parse signed = .ok 1 ∧ Signed signed ∧ readLeading signed = 0 := by
  intro plain signed
  have accepted : parse plain = .ok 0xff := rfl
  have trimmed : Text.trim plain = "0X00fF".toList := by decide
  have unsigned : ¬Signed plain := by
    rintro ⟨mark, rest, core, rfl | rfl | rfl⟩ <;> simp [trimmed] at core
  have acceptedToo : parse signed = .ok 1 := rfl
  have sign : Signed signed := ⟨"0x".toList, ['1'], by decide, .inr (.inl rfl)⟩
  exact ⟨⟨accepted, unsigned, (readLeading_of_parse plain 0xff accepted).1 unsigned⟩,
    acceptedToo, sign, (readLeading_of_parse signed 1 acceptedToo).2 sign⟩

theorem readers_differ_on_sign :
    ¬∀ (text : Text) (address : Address),
      parse text = .ok address → readLeading text = address := by
  intro agree
  have one : readLeading "+1".toList = 1 := agree "+1".toList 1 rfl
  exact absurd one (by decide)

end Symbolizer.Address
