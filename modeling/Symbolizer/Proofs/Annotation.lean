import Symbolizer.Proofs.Entry
import Symbolizer.Proofs.Text.Slices

set_option autoImplicit false

namespace Symbolizer

def Address.sliceLeading? (field : Text) : Option Address :=
  let digits := body (Text.trimStart field)
  let stop := (Text.offset? (fun c => !isHexDigit c) digits).getD (Text.byteLength digits)
  (Text.sliceTo? stop digits).map readClamped

theorem Address.sliceLeading?_eq (field : Text) :
    sliceLeading? field = some (readLeading field) := by
  simp [sliceLeading?, Text.offset?_getD, Text.sliceTo?_takeWhile, readLeading, leadingDigits_eq]

namespace Entry

-- In what follows an outer `none` stands for a slice that falls inside a character.

def sliceOwner? (line : Text) : Option (Text × Option Text) :=
  match Text.offset? (· == '[') line with
  | none => some (line, none)
  | some opening => do
      let bracketed ← Text.dropBytes? (opening + 1) line
      let owner ←
        match Text.offset? (· == ']') bracketed with
        | none => some bracketed
        | some closing => Text.sliceTo? closing bracketed
      let described ← Text.sliceTo? opening line
      some (Text.trimEnd described, some owner)

def sliceDescription? (described : Text) : Option (Option (Address × Text)) :=
  match Text.offset? (· == ' ') described with
  | none => some none
  | some space => do
      let field ← Text.sliceTo? space described
      let address ← Address.sliceLeading? field
      some ((Text.dropBytes? (space + 3) described).map fun name => (address, name))

def parseSliced? (line : Text) : Option (Option Entry) := do
  let parts ← sliceOwner? line
  let described ← sliceDescription? parts.1
  some (described.map fun read => ⟨read.1, read.2, parts.2⟩)

theorem sliceOwner?_eq (line : Text) : sliceOwner? line = some (splitOwner line) := by
  cases cut : Text.cut? '[' line with
  | none => simp [sliceOwner?, splitOwner, Text.offset?_of_cut?_none cut, cut]
  | some parts =>
      obtain ⟨described, bracketed⟩ := parts
      have behind : Text.dropBytes? (Text.byteLength described + 1) line = some bracketed := by
        simpa using Text.dropBytes?_of_cut? cut rfl 0
      cases close : Text.cut? ']' bracketed with
      | none =>
          simp [sliceOwner?, splitOwner, cut, close, behind, Text.offset?_of_cut? cut,
            Text.sliceTo?_of_cut? cut, Text.offset?_of_cut?_none close]
      | some parts =>
          simp [sliceOwner?, splitOwner, cut, close, behind, Text.offset?_of_cut? cut,
            Text.sliceTo?_of_cut? cut, Text.offset?_of_cut? close, Text.sliceTo?_of_cut? close]

theorem sliceDescription?_eq (described : Text) :
    sliceDescription? described = some (describe? described) := by
  cases cut : Text.cut? ' ' described with
  | none => simp [sliceDescription?, describe?, Text.offset?_of_cut?_none cut, cut]
  | some parts =>
      obtain ⟨field, rest⟩ := parts
      have behind : Text.dropBytes? (Text.byteLength field + 3) described =
          Text.dropBytes? 2 rest := Text.dropBytes?_of_cut? cut rfl 2
      simp [sliceDescription?, describe?, cut, behind, Text.offset?_of_cut? cut,
        Text.sliceTo?_of_cut? cut, Address.sliceLeading?_eq]

theorem parseSliced?_eq (line : Text) : parseSliced? line = some (parse? line) := by
  simp [parseSliced?, parse?, sliceOwner?_eq, sliceDescription?_eq]

theorem splitOwner_unclosed (described owner : Text) (plain : '[' ∉ described)
    (closed : ']' ∉ owner) :
    splitOwner (described ++ '[' :: owner) = (Text.trimEnd described, some owner) := by
  simp [splitOwner, Text.cut?_append '[' described owner plain,
    (Text.cut?_eq_none_iff ']' owner).2 closed]

theorem parse?_eq_map_describe? {line described : Text} {owner : Option Text}
    (parts : splitOwner line = (described, owner)) :
    parse? line = (describe? described).map fun read => ⟨read.1, read.2, owner⟩ := by
  rw [parse?, parts]

section Annotated

variable {described blanks owner : Text} (plain : '[' ∉ described)
  (visible : Text.endsBlank described = false) (blank : ∀ c ∈ blanks, Text.isBlank c = true)
  (closed : ']' ∉ owner)

include plain in
theorem parse?_of_plain :
    parse? described = (describe? described).map fun read => ⟨read.1, read.2, none⟩ :=
  parse?_eq_map_describe? (splitOwner_of_notMem described plain)

include plain visible blank in
theorem parse?_of_annotated {line : Text}
    (parts : splitOwner line = (Text.trimEnd (described ++ blanks), some owner)) :
    parse? line = (parse? described).map fun entry => { entry with owner := some owner } := by
  have trimmed : Text.trimEnd (described ++ blanks) = described := by
    rw [Text.trimEnd_append_blanks described blanks blank,
      Text.trimEnd_of_not_endsBlank described visible]
  rw [trimmed] at parts
  simp [parse?_eq_map_describe? parts, parse?_of_plain plain, Function.comp_def]

end Annotated

theorem parse?_annotated (described blanks owner rest : Text) (plain : '[' ∉ described)
    (visible : Text.endsBlank described = false) (blank : ∀ c ∈ blanks, Text.isBlank c = true)
    (closed : ']' ∉ owner) :
    let owned := (parse? described).map fun entry => { entry with owner := some owner }
    let unclosed := described ++ blanks ++ '[' :: owner
    let annotated := described ++ blanks ++ '[' :: (owner ++ ']' :: rest)
    parse? annotated = owned ∧ parse? unclosed = owned ∧
      ∀ line ∈ [described, unclosed, annotated], parseSliced? line = some (parse? line) := by
  intro owned unclosed annotated
  have plainToo : '[' ∉ described ++ blanks := by
    have notBlank : '[' ∉ blanks := fun member => absurd (blank '[' member) (by decide)
    simp [plain, notBlank]
  refine ⟨?_, ?_, fun line _ => parseSliced?_eq line⟩
  · exact parse?_of_annotated plain visible blank (splitOwner_append _ owner rest plainToo closed)
  · exact parse?_of_annotated plain visible blank (splitOwner_unclosed _ owner plainToo closed)

theorem parse?_annotated_twoByteType :
    let described := "ff é\u00fcber".toList
    let owned := some (⟨0xff, "\u00fcber".toList, some "m[x".toList⟩ : Entry)
    '[' ∉ described ∧ Text.endsBlank described = false ∧
      (∀ c ∈ ['\t', '\u3000'], Text.isBlank c = true) ∧ ']' ∉ "m[x".toList ∧
      parse? (described ++ ['\t', '\u3000'] ++ "[m[x] y]".toList) = owned ∧
      parse? (described ++ ['\t', '\u3000'] ++ "[m[x".toList) = owned := by
  intro described owned
  have plain : '[' ∉ described := by decide
  have visible : Text.endsBlank described = false := by decide
  have blank : ∀ c ∈ ['\t', '\u3000'], Text.isBlank c = true :=
    List.all_eq_true.1 (by decide)
  have closed : ']' ∉ "m[x".toList := by decide
  have read : parse? described = some ⟨0xff, "\u00fcber".toList, none⟩ := by decide
  have annotated := parse?_annotated described ['\t', '\u3000'] "m[x".toList " y]".toList
    plain visible blank closed
  simp only [read, Option.map_some] at annotated
  exact ⟨plain, visible, blank, closed, annotated.1, annotated.2.1⟩

end Entry

end Symbolizer
