set_option autoImplicit false

namespace Symbolizer

abbrev Text := List Char

namespace Text

def cut? (separator : Char) : Text → Option (Text × Text)
  -- Split at the first `separator`, which belongs to neither part.
  | [] => none
  | head :: rest =>
      if head = separator then some ([], rest)
      else (cut? separator rest).map fun parts => (head :: parts.1, parts.2)

theorem cut?_eq_none_iff (separator : Char) (text : Text) :
    cut? separator text = none ↔ separator ∉ text := by
  induction text with
  | nil => simp [cut?]
  | cons head rest ih =>
      by_cases same : head = separator <;> simp [cut?, same, ih, Ne.symm (a := head)]

theorem cut?_eq_some_iff (separator : Char) (text before after : Text) :
    cut? separator text = some (before, after) ↔
      text = before ++ separator :: after ∧ separator ∉ before := by
  induction text generalizing before with
  | nil => simp [cut?]
  | cons head rest ih =>
      by_cases same : head = separator
      · subst same
        cases before <;> simp [cut?]
        grind
      · cases before with
        | nil => simp [cut?, same]
        | cons first others =>
            simp only [cut?, same, if_false, Option.map_eq_some_iff, Prod.mk.injEq,
              List.cons.injEq, Prod.exists, List.cons_append, List.mem_cons, not_or]
            constructor
            · intro cut
              obtain ⟨parts, tail, found, ⟨rfl, rfl⟩, rfl⟩ := cut
              have pieces := (ih parts).1 found
              exact ⟨⟨rfl, pieces.1⟩, Ne.symm same, pieces.2⟩
            · intro pieces
              obtain ⟨⟨rfl, whole⟩, _, absent⟩ := pieces
              exact ⟨others, after, (ih others).2 ⟨whole, absent⟩, ⟨rfl, rfl⟩, rfl⟩

theorem cut?_append (separator : Char) (before after : Text) (absent : separator ∉ before) :
    cut? separator (before ++ separator :: after) = some (before, after) :=
  (cut?_eq_some_iff separator _ before after).2 ⟨rfl, absent⟩

section Separated

variable {separator : Char} {before before' after after' : Text}

theorem append_separator_inj (closed : separator ∉ before) (closed' : separator ∉ before')
    (same : before ++ separator :: after = before' ++ separator :: after') :
    before = before' ∧ after = after' := by
  have cut := cut?_append separator before after closed
  rw [same, cut?_append separator before' after' closed'] at cut
  simpa [eq_comm] using cut

theorem append_separator_inj_right (closed : separator ∉ after) (closed' : separator ∉ after')
    (same : before ++ separator :: after = before' ++ separator :: after') :
    before = before' ∧ after = after' := by
  have backwards : after.reverse ++ separator :: before.reverse =
      after'.reverse ++ separator :: before'.reverse := by
    simpa using congrArg List.reverse same
  have parts := append_separator_inj (by simpa using closed) (by simpa using closed') backwards
  simpa [and_comm] using parts

end Separated

def chain (causes : List Text) : Text :=
  List.intercalate ": ".toList causes

def byteLength : Text → Nat
  | [] => 0
  | head :: rest => head.utf8Size + byteLength rest

def dropBytes? (count : Nat) : Text → Option Text
  | [] => if count = 0 then some [] else none
  | head :: rest =>
      if count = 0 then some (head :: rest)
      else if head.utf8Size ≤ count then dropBytes? (count - head.utf8Size) rest
      else none

def takeBytes (room : Nat) : Text → Text
  -- The longest run of whole characters at the start that fits into `room` bytes.
  | [] => []
  | head :: rest =>
      if head.utf8Size ≤ room then head :: takeBytes (room - head.utf8Size) rest else []

theorem byteLength_append (before after : Text) :
    byteLength (before ++ after) = byteLength before + byteLength after := by
  induction before with
  | nil => simp [byteLength]
  | cons head before ih => simp [byteLength, ih, Nat.add_assoc]

@[simp] theorem dropBytes?_zero (text : Text) : dropBytes? 0 text = some text := by
  cases text <;> simp [dropBytes?]

theorem dropBytes?_add (before after : Text) (count : Nat) :
    dropBytes? (byteLength before + count) (before ++ after) = dropBytes? count after := by
  induction before with
  | nil => simp [byteLength]
  | cons head before ih =>
      have positive := head.utf8Size_pos
      have remaining : head.utf8Size + byteLength before + count - head.utf8Size =
          byteLength before + count := by omega
      have some_left : head.utf8Size + byteLength before + count ≠ 0 := by omega
      have fits : head.utf8Size ≤ head.utf8Size + byteLength before + count := by omega
      simp only [byteLength, List.cons_append, dropBytes?, some_left, fits, if_true, if_false,
        remaining, ih]

theorem dropBytes?_append (before after : Text) :
    dropBytes? (byteLength before) (before ++ after) = some after := by
  simpa using dropBytes?_add before after 0

theorem takeBytes_append (before after : Text) :
    takeBytes (byteLength before) (before ++ after) = before := by
  induction before with
  | nil =>
      cases after with
      | nil => rfl
      | cons head rest =>
          have positive := head.utf8Size_pos
          simp only [byteLength, List.nil_append, takeBytes]
          rw [if_neg (by omega)]
  | cons head before ih =>
      simp [byteLength, takeBytes, ih]

theorem takeBytes_prefix (room : Nat) (text : Text) : takeBytes room text <+: text := by
  induction text generalizing room with
  | nil => exact List.prefix_refl _
  | cons head rest ih =>
      by_cases fits : head.utf8Size ≤ room
      · simpa [takeBytes, fits] using ih (room - head.utf8Size)
      · simp [takeBytes, fits]

theorem byteLength_takeBytes_le (room : Nat) (text : Text) :
    byteLength (takeBytes room text) ≤ room := by
  induction text generalizing room with
  | nil => simp [takeBytes, byteLength]
  | cons head rest ih =>
      by_cases fits : head.utf8Size ≤ room
      · have behind := ih (room - head.utf8Size)
        simp only [takeBytes, fits, if_true, byteLength]
        omega
      · simp [takeBytes, fits, byteLength]

theorem begins_takeBytes {room : Nat} {text other : Text} (begins : other <+: text)
    (fits : byteLength other ≤ room) : other <+: takeBytes room text := by
  induction text generalizing room other with
  | nil => simpa [takeBytes] using begins
  | cons head rest ih =>
      cases other with
      | nil => exact List.nil_prefix
      | cons first others =>
          obtain ⟨rfl, behind⟩ := List.cons_prefix_cons.1 begins
          simp only [byteLength] at fits
          rw [takeBytes, if_pos (by omega)]
          exact List.cons_prefix_cons.2 ⟨rfl, ih behind (by omega)⟩

theorem dropBytes?_eq_some (count : Nat) (text after : Text)
    (dropped : dropBytes? count text = some after) :
    ∃ before, text = before ++ after ∧ byteLength before = count := by
  induction text generalizing count with
  | nil =>
      obtain ⟨zero, rfl⟩ : count = 0 ∧ [] = after := by simpa [dropBytes?] using dropped
      exact ⟨[], rfl, zero.symm⟩
  | cons head rest ih =>
      by_cases zero : count = 0
      · obtain rfl : head :: rest = after := by simpa [dropBytes?, zero] using dropped
        exact ⟨[], rfl, zero.symm⟩
      · by_cases fits : head.utf8Size ≤ count
        · obtain ⟨before, rfl, width⟩ := ih (count - head.utf8Size) (by
            simpa [dropBytes?, zero, fits] using dropped)
          refine ⟨head :: before, rfl, ?_⟩
          simp only [byteLength, width]
          omega
        · simp [dropBytes?, zero, fits] at dropped

end Text

end Symbolizer
