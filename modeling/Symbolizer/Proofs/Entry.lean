import Symbolizer.Proofs.Address
import Symbolizer.Table.Builder

set_option autoImplicit false

namespace Symbolizer

namespace Entry

section Padded

variable (address : Address)

theorem spells_paddedAddress : Spells (paddedAddress address) address.toNat :=
  .padded _ _

theorem isHexDigit_paddedAddress : ∀ c ∈ paddedAddress address, isHexDigit c = true :=
  (spells_paddedAddress address).hex

theorem readLeading_paddedAddress : Address.readLeading (paddedAddress address) = address := by
  have reads : Address.readLeading ([] ++ ([] ++ (paddedAddress address ++ []))) = address :=
    Address.readLeading_of_spells (by simp) (.inl rfl) (by simp) (by simp [Address.EndsMark])
      address (spells_paddedAddress address)
  simpa using reads

end Padded

theorem describe?_append (field skipped name : Text) (closed : ' ' ∉ field)
    (width : Text.byteLength skipped = 2) :
    describe? (field ++ ' ' :: (skipped ++ name)) = some (Address.readLeading field, name) := by
  rw [describe?, Text.cut?_append ' ' field _ closed]
  simp only [← width, Text.dropBytes?_append, Option.map_some]

theorem splitOwner_of_notMem (line : Text) (plain : '[' ∉ line) :
    splitOwner line = (line, none) := by
  rw [splitOwner, (Text.cut?_eq_none_iff '[' line).2 plain]

theorem splitOwner_append (described owner rest : Text) (plain : '[' ∉ described)
    (closed : ']' ∉ owner) :
    splitOwner (described ++ '[' :: (owner ++ ']' :: rest)) =
      (Text.trimEnd described, some owner) := by
  rw [splitOwner, Text.cut?_append '[' described _ plain]
  simp only [Text.cut?_append ']' owner rest closed]

def described (kind : Char) (entry : Entry) : Text :=
  paddedAddress entry.address ++ ' ' :: ([kind, ' '] ++ entry.name)

theorem notMem_paddedAddress (address : Address) (c : Char) (other : isHexDigit c = false) :
    c ∉ paddedAddress address := by
  intro member
  rw [isHexDigit_paddedAddress address c member] at other
  contradiction

theorem notMem_described {c kind : Char} {entry : Entry} (other : isHexDigit c = false)
    (notSpace : c ≠ ' ') (notKind : kind ≠ c) (notName : c ∉ entry.name) :
    c ∉ described kind entry := by
  simp [described, notMem_paddedAddress entry.address c other, notSpace, notKind.symm, notName]

theorem describe?_described (kind : Char) (entry : Entry) (ascii : kind.toNat < 128) :
    describe? (described kind entry) = some (entry.address, entry.name) := by
  have oneByte : kind.utf8Size = 1 := Char.utf8Size_eq_one_iff.2 (Nat.lt_succ_iff.1 ascii)
  have width : Text.byteLength [kind, ' '] = 2 := by
    rw [Text.byteLength, oneByte]
    rfl
  rw [described, describe?_append _ _ _ (notMem_paddedAddress entry.address ' ' rfl) width,
    readLeading_paddedAddress]

structure Writable (entry : Entry) : Prop where
  name_plain : '[' ∉ entry.name
  owner_closed : ∀ owner ∈ entry.owner, ']' ∉ owner
  name_visible : entry.owner.isSome = true → entry.name ≠ [] ∧ Text.endsBlank entry.name = false

section Render

variable {entry : Entry} {kind blank : Char}

theorem render_unowned (unowned : entry.owner = none) :
    render kind blank entry = described kind entry := by
  simp [render, described, unowned]

theorem render_owned (owner : Text) (owned : entry.owner = some owner) :
    render kind blank entry = (described kind entry ++ [blank]) ++ '[' :: (owner ++ [']']) := by
  simp [render, described, owned]

theorem endsBlank_described (written : entry.name ≠ []) :
    Text.endsBlank (described kind entry) = Text.endsBlank entry.name := by
  have whole : described kind entry =
      (paddedAddress entry.address ++ [' ', kind, ' ']) ++ entry.name := by simp [described]
  rw [whole, Text.endsBlank_append _ _ written]

theorem parse?_render (writable : entry.Writable) (ascii : kind.toNat < 128)
    (plainKind : kind ≠ '[') (isBlank : Text.isBlank blank = true) :
    parse? (render kind blank entry) = some entry := by
  have plain : '[' ∉ described kind entry :=
    notMem_described rfl (by decide) plainKind writable.name_plain
  cases owner : entry.owner with
  | none =>
      rw [render_unowned owner, parse?, splitOwner_of_notMem _ plain]
      simp only [describe?_described kind entry ascii, Option.map_some, ← owner]
  | some text =>
      obtain ⟨written, visible⟩ := writable.name_visible (by simp [owner])
      have plainToo : '[' ∉ described kind entry ++ [blank] := by
        have notBlank : '[' ≠ blank := by
          intro same
          rw [← same] at isBlank
          exact absurd isBlank (by decide)
        simp [plain, notBlank]
      -- Trimming stops at the name, whose last character is visible.
      have trimmed : Text.trimEnd (described kind entry ++ [blank]) = described kind entry := by
        rw [Text.trimEnd_append_blanks _ _ (by simpa using isBlank)]
        apply Text.trimEnd_of_not_endsBlank
        rw [endsBlank_described written, visible]
      rw [render_owned text owner, parse?,
        splitOwner_append _ text [] plainToo (writable.owner_closed text owner), trimmed]
      simp only [describe?_described kind entry ascii, Option.map_some, ← owner]

end Render

end Entry

end Symbolizer
