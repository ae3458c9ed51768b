import Symbolizer.Proofs.Dump.JsonReader

set_option autoImplicit false

namespace Symbolizer.Json

def Bounded (rest : Text) : Prop :=
  ∃ c tail, rest = c :: tail ∧ c.isDigit = false

def Writes (text : Text) (value : Value) : Prop :=
  ∀ stack rest, Bounded rest →
    read .between stack (text ++ rest) = read .between (place value stack) rest

theorem writes_string (text : Text) : Writes (string text) (.text text) :=
  fun stack rest _ => read_string text stack rest

theorem writes_stringOrNull (text : Option Text) :
    Writes (stringOrNull text) (text.elim .null .text) := by
  cases text with
  | none => exact fun stack rest _ => read_null stack rest
  | some text => exact writes_string text

theorem writes_decimal (number : Nat) : Writes (decimal number) (.number number) := by
  intro stack rest bounded
  obtain ⟨c, tail, rfl, apart⟩ := bounded
  rw [read_decimal, read_number number stack c tail apart]

/-- Which items are members between two brackets, and what they make. -/
structure Brackets (α : Type) where
  first : Char
  last : Char
  opening : Token
  closing : Token
  pick : Item → Option α
  wrap : α → Item
  make : List α → Value
  picks : ∀ member, pick (wrap member) = some member
  unpicked : ∀ mark, pick (.mark mark) = none
  opens : step .between first = some ([opening], .between)
  closes : step .between last = some ([closing], .between)
  marks : ∀ stack, shift stack opening = some (.mark opening :: stack)
  gathers : ∀ stack, shift stack closing =
    (members? pick opening stack).map fun found => place (make found.1) found.2
  notComma : opening ≠ .comma
  notColon : opening ≠ .colon

def square : Brackets Value where
  first := '['
  last := ']'
  opening := .openArray
  closing := .closeArray
  pick := Item.value?
  wrap := .value
  make := .array
  picks := fun _ => rfl
  unpicked := fun _ => rfl
  opens := rfl
  closes := rfl
  marks := fun _ => rfl
  gathers := fun _ => rfl
  notComma := by decide
  notColon := by decide

def curly : Brackets (Text × Value) where
  first := '\x7b'
  last := '\x7d'
  opening := .openObject
  closing := .closeObject
  pick := Item.field?
  wrap := fun field => .field field.1 field.2
  make := .object
  picks := fun _ => rfl
  unpicked := fun _ => rfl
  opens := rfl
  closes := rfl
  marks := fun _ => rfl
  gathers := fun _ => rfl
  notComma := by decide
  notColon := by decide

def Delivers (text : Text) (item : Item) : Prop :=
  ∀ mark stack rest, mark ≠ .colon → Bounded rest →
    read .between (.mark mark :: stack) (text ++ rest) =
      read .between (item :: .mark mark :: stack) rest

theorem place_behind (value : Value) (mark : Token) (stack : List Item) (other : mark ≠ .colon) :
    place value (.mark mark :: stack) = .value value :: .mark mark :: stack := by
  unfold place
  split
  next same => simp_all
  next => rfl

theorem Writes.delivers {text : Text} {value : Value} (writes : Writes text value) :
    Delivers text (.value value) := by
  intro mark stack rest other bounded
  rw [writes _ rest bounded, place_behind value mark stack other]

theorem Writes.delivers_field {text : Text} {value : Value} (key : Text)
    (writes : Writes text value) :
    Delivers (string key ++ ": ".toList ++ text) (.field key value) := by
  intro mark stack rest other bounded
  have whole : string key ++ ": ".toList ++ text ++ rest =
      string key ++ ':' :: ' ' :: (text ++ rest) := by simp
  rw [whole, read_string, place_behind _ mark stack other,
    read_token .colon (.mark .colon :: .value (.text key) :: .mark mark :: stack) _ rfl rfl,
    read_quiet .between _ _ rfl, writes _ rest bounded]
  rfl

namespace Brackets

variable {α : Type} (brackets : Brackets α)

def separated (members : List α) (stack : List Item) : List Item :=
  members.foldl (fun stack member => brackets.wrap member :: .mark .comma :: stack) stack

theorem gather_opening (member : α) (found : List α) (stack : List Item) :
    gather brackets.pick brackets.opening found
        (brackets.wrap member :: .mark brackets.opening :: stack) =
      some (member :: found, stack) := by
  simp [gather, brackets.picks]

theorem gather_comma (member : α) (found : List α) (stack : List Item) :
    gather brackets.pick brackets.opening found (brackets.wrap member :: .mark .comma :: stack) =
      gather brackets.pick brackets.opening (member :: found) stack := by
  simp [gather, brackets.picks, brackets.notComma.symm]

theorem gather_separated_comma (first : α) (members found : List α) (stack : List Item) :
    gather brackets.pick brackets.opening found
        (brackets.separated members (brackets.wrap first :: .mark .comma :: stack)) =
      gather brackets.pick brackets.opening (first :: members ++ found) stack := by
  induction members generalizing first stack with
  | nil => exact brackets.gather_comma first found stack
  | cons next others ih => exact (ih next _).trans (brackets.gather_comma first _ stack)

theorem gather_separated (first : α) (members : List α) (stack : List Item) :
    gather brackets.pick brackets.opening []
        (brackets.separated members (brackets.wrap first :: .mark brackets.opening :: stack)) =
      some (first :: members, stack) := by
  cases members with
  | nil => exact brackets.gather_opening first [] stack
  | cons next others =>
      refine (brackets.gather_separated_comma next others [] _).trans ?_
      rw [gather_opening, List.append_nil]

theorem members?_wrap (member : α) (stack : List Item) :
    members? brackets.pick brackets.opening (brackets.wrap member :: stack) =
      gather brackets.pick brackets.opening [] (brackets.wrap member :: stack) := by
  -- A mark on top would be a pair of brackets with nothing between them.
  have picks := brackets.picks member
  cases item : brackets.wrap member with
  | mark token => simp [item, brackets.unpicked] at picks
  | value | field => rfl

theorem separated_top (first : α) (members : List α) (stack : List Item) :
    ∃ top below,
      brackets.separated members (brackets.wrap first :: stack) = brackets.wrap top :: below := by
  induction members generalizing first stack with
  | nil => exact ⟨first, stack, rfl⟩
  | cons next _ ih => exact ih next _

theorem members?_separated (first : α) (members : List α) (stack : List Item) :
    members? brackets.pick brackets.opening
        (brackets.separated members (brackets.wrap first :: .mark brackets.opening :: stack)) =
      some (first :: members, stack) := by
  have gathered := brackets.gather_separated first members stack
  obtain ⟨top, below, whole⟩ :=
    brackets.separated_top first members (.mark brackets.opening :: stack)
  rw [whole] at gathered ⊢
  rw [members?_wrap, gathered]

theorem read_opening (stack : List Item) (rest : Text) :
    read .between stack (brackets.first :: rest) =
      read .between (.mark brackets.opening :: stack) rest :=
  read_token _ _ rest brackets.opens (brackets.marks stack)

theorem read_closing (members : List α) (behind stack : List Item) (rest : Text)
    (found : members? brackets.pick brackets.opening behind = some (members, stack)) :
    read .between behind (brackets.last :: rest) =
      read .between (place (brackets.make members) stack) rest := by
  apply read_token _ _ rest brackets.closes
  rw [brackets.gathers, found]
  rfl

def remainder (depth : Nat) (members : List (List Text)) : Text :=
  (members.flatMap fun member => (',' :: newLine (depth + 1)) :: member).flatten ++
    (newLine depth ++ [brackets.last])

theorem remainder_bounded (depth : Nat) (members : List (List Text)) (rest : Text) :
    Bounded (brackets.remainder depth members ++ rest) := by
  cases members with
  | nil => exact ⟨'\n', _, rfl, rfl⟩
  | cons member others => exact ⟨',', _, rfl, rfl⟩

theorem read_remainder (depth : Nat) (members : List (α × List Text))
    (delivers : ∀ member ∈ members, Delivers member.2.flatten (brackets.wrap member.1))
    (behind : List Item) (rest : Text) :
    read .between behind (brackets.remainder depth (members.map Prod.snd) ++ rest) =
      read .between (brackets.separated (members.map Prod.fst) behind) (brackets.last :: rest) := by
  induction members generalizing behind with
  | nil =>
      have whole : brackets.remainder depth [] ++ rest =
          newLine depth ++ brackets.last :: rest := by simp [remainder]
      rw [List.map_nil, whole, read_newLine]
      rfl
  | cons member others ih =>
      rw [List.forall_mem_cons] at delivers
      have whole : brackets.remainder depth ((member :: others).map Prod.snd) ++ rest =
          ',' :: (newLine (depth + 1) ++ (member.2.flatten ++
            (brackets.remainder depth (others.map Prod.snd) ++ rest))) := by
        simp [remainder]
      rw [whole, read_token .comma (.mark .comma :: behind) _ rfl rfl, read_newLine,
        delivers.1 .comma _ _ (by decide) (brackets.remainder_bounded depth _ rest),
        ih delivers.2]
      rfl

theorem writes_block (depth : Nat) (members : List (α × List Text))
    (delivers : ∀ member ∈ members, Delivers member.2.flatten (brackets.wrap member.1)) :
    Writes (block brackets.first brackets.last depth (members.map Prod.snd)).flatten
      (brackets.make (members.map Prod.fst)) := by
  intro stack rest _
  cases members with
  | nil =>
      have whole : (block brackets.first brackets.last depth []).flatten ++ rest =
          brackets.first :: brackets.last :: rest := rfl
      rw [List.map_nil, whole, read_opening]
      apply brackets.read_closing []
      simp [members?]
  | cons member others =>
      rw [List.forall_mem_cons] at delivers
      have whole : (block brackets.first brackets.last depth
            ((member :: others).map Prod.snd)).flatten ++ rest =
          brackets.first :: (newLine (depth + 1) ++ (member.2.flatten ++
            (brackets.remainder depth (others.map Prod.snd) ++ rest))) := by
        simp [block, remainder]
      rw [whole, read_opening, read_newLine,
        delivers.1 _ _ _ brackets.notColon (brackets.remainder_bounded depth _ rest),
        brackets.read_remainder depth others delivers.2]
      exact brackets.read_closing _ _ _ _ (brackets.members?_separated _ _ _)

end Brackets

theorem writes_array {α : Type} (depth : Nat) (elements : List α) (pieces : α → List Text)
    (value : α → Value)
    (writes : ∀ element ∈ elements, Writes (pieces element).flatten (value element)) :
    Writes (array depth (elements.map pieces)).flatten (.array (elements.map value)) := by
  have written := square.writes_block depth
    (elements.map fun element => (value element, pieces element))
    (by
      rw [List.forall_mem_map]
      exact fun element member => (writes element member).delivers)
  rwa [List.map_map, List.map_map] at written

theorem writes_object (depth : Nat) (fields : List ((Text × Value) × List Text))
    (writes : ∀ field ∈ fields, Writes field.2.flatten field.1.2) :
    Writes (object depth (fields.map fun field => (field.1.1, field.2))).flatten
      (.object (fields.map Prod.fst)) := by
  have written := curly.writes_block depth
    (fields.map fun field => (field.1, (string field.1.1 ++ ": ".toList) :: field.2))
    (by
      rw [List.forall_mem_map]
      exact fun field member => (writes field member).delivers_field field.1.1)
  rw [List.map_map, List.map_map] at written
  rw [object, List.map_map]
  exact written

theorem read?_of_writes {text : Text} {value : Value} (writes : Writes text value) :
    read? (text ++ ['\n']) = some value := by
  rw [read?, writes [] ['\n'] ⟨'\n', [], rfl, rfl⟩, read_quiet .between _ _ rfl]
  rfl

end Symbolizer.Json
