import Mathlib.Data.List.Infix
import Symbolizer.Text.Basic

set_option autoImplicit false

namespace Symbolizer.Text

/-- No beginning of the phrase ends the text, so nothing behind the text can complete it. -/
def EndsApart (phrase text : Text) : Prop :=
  ∀ cut < phrase.length, 0 < cut → ¬phrase.take cut <:+ text

def StartsApart (phrase text : Text) : Prop :=
  ∀ cut < phrase.length, 0 < cut → ¬phrase.drop cut <+: text

instance (phrase text : Text) : Decidable (EndsApart phrase text) :=
  inferInstanceAs (Decidable (∀ cut < phrase.length, 0 < cut → ¬phrase.take cut <:+ text))

instance (phrase text : Text) : Decidable (StartsApart phrase text) :=
  inferInstanceAs (Decidable (∀ cut < phrase.length, 0 < cut → ¬phrase.drop cut <+: text))

theorem startsApart_cons {phrase : Text} {c : Char} (absent : c ∉ phrase) (text : Text) :
    StartsApart phrase (c :: text) := by
  rintro cut small - ⟨behind, whole⟩
  rw [List.drop_eq_getElem_cons small, List.cons_append, List.cons.injEq] at whole
  exact absent (whole.1 ▸ List.getElem_mem small)

theorem infix_append_iff_of_apart {phrase before after : Text}
    (apart : ∀ cut < phrase.length, 0 < cut →
      ¬(phrase.take cut <:+ before ∧ phrase.drop cut <+: after)) :
    phrase <:+: before ++ after ↔ phrase <:+: before ∨ phrase <:+: after := by
  rw [List.infix_append_iff_ne_nil, or_congr_right]
  constructor
  · rintro (inside | ⟨left, right, begun, unfinished, rfl, ends, starts⟩)
    · exact inside
    · have shorter : left.length < (left ++ right).length := by
        simpa [List.length_pos_iff] using unfinished
      exact absurd (by simpa using ⟨ends, starts⟩)
        (apart left.length shorter (List.length_pos_iff.2 begun))
  · exact .inl

def lowered (text : Text) : Text :=
  text.map Char.toLower

theorem lowered_append (before after : Text) :
    lowered (before ++ after) = lowered before ++ lowered after :=
  List.map_append

def Says (phrase text : Text) : Prop :=
  phrase <:+: lowered text

instance (phrase text : Text) : Decidable (Says phrase text) :=
  inferInstanceAs (Decidable (phrase <:+: lowered text))

section Says

variable {phrase before after : Text}

theorem says_append_of_endsApart (ends : EndsApart phrase (lowered before)) :
    Says phrase (before ++ after) ↔ Says phrase before ∨ Says phrase after := by
  rw [Says, lowered_append]
  exact infix_append_iff_of_apart fun cut small begun both => ends cut small begun both.1

theorem says_append_of_startsApart (starts : StartsApart phrase (lowered after)) :
    Says phrase (before ++ after) ↔ Says phrase before ∨ Says phrase after := by
  rw [Says, lowered_append]
  exact infix_append_iff_of_apart fun cut small begun both => starts cut small begun both.2

theorem says_append_left (said : Says phrase before) : Says phrase (before ++ after) := by
  rw [Says, lowered_append]
  exact said.trans (List.prefix_append _ _).isInfix

/-- A phrase that can stand in one part of a chain only. -/
structure Unbroken (phrase : Text) : Prop where
  occupied : phrase ≠ []
  first : phrase.head? ≠ some ' '
  whole : ':' ∉ phrase

theorem Unbroken.says_separated (unbroken : Unbroken phrase) :
    Says phrase (before ++ ": ".toList ++ after) ↔ Says phrase before ∨ Says phrase after := by
  have colon : lowered (": ".toList ++ after) = ':' :: ' ' :: lowered after := by
    simp [lowered]
  have starts : StartsApart phrase (lowered (": ".toList ++ after)) :=
    colon ▸ startsApart_cons unbroken.whole _
  have behind : Says phrase (": ".toList ++ after) ↔ Says phrase after := by
    rw [Says, colon, Says, List.infix_cons_iff, List.infix_cons_iff]
    have occupied := unbroken.occupied
    have first := unbroken.first
    have whole := unbroken.whole
    cases phrase with
    | nil => contradiction
    | cons head rest =>
        simp only [List.head?_cons, ne_eq, Option.some.injEq] at first
        simp only [List.mem_cons, not_or] at whole
        simp [first, Ne.symm whole.1]
  rw [List.append_assoc, says_append_of_startsApart starts, behind]

@[simp] theorem chain_singleton (cause : Text) : chain [cause] = cause :=
  List.intercalate_singleton

theorem Unbroken.says_chain_cons (unbroken : Unbroken phrase) (cause next : Text)
    (rest : List Text) :
    Says phrase (chain (cause :: next :: rest)) ↔
      Says phrase cause ∨ Says phrase (chain (next :: rest)) := by
  have step : chain (cause :: next :: rest) =
      cause ++ ": ".toList ++ chain (next :: rest) := List.intercalate_cons_cons
  rw [step, unbroken.says_separated]

end Says

end Symbolizer.Text
