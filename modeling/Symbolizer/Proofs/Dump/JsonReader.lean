import Symbolizer.Dump.Json
import Symbolizer.Proofs.Numeral

set_option autoImplicit false

namespace Symbolizer.Json

inductive Value where
  | null
  | text (text : Text)
  | number (number : Nat)
  | array (elements : List Value)
  | object (fields : List (Text × Value))

inductive Token where
  | openArray
  | closeArray
  | openObject
  | closeObject
  | comma
  | colon
  | null
  | text (text : Text)
  | number (number : Nat)
  deriving DecidableEq, Repr

/-- What is begun between two characters; the text seen stands latest character first. -/
inductive Lexeme where
  | between
  | word (rest : Text)
  | number (value : Nat)
  | text (seen : Text)
  | escape (seen : Text)
  | code (seen : Text) (missing value : Nat)
  deriving DecidableEq, Repr

def start (c : Char) : Option (List Token × Lexeme) :=
  if c.isDigit then some ([], .number (c.toNat - 48))
  else
    match c with
    | ' ' | '\n' | '\t' | '\r' => some ([], .between)
    | '[' => some ([.openArray], .between)
    | ']' => some ([.closeArray], .between)
    | '\x7b' => some ([.openObject], .between)
    | '\x7d' => some ([.closeObject], .between)
    | ',' => some ([.comma], .between)
    | ':' => some ([.colon], .between)
    | '"' => some ([], .text [])
    | 'n' => some ([], .word ['u', 'l', 'l'])
    | _ => none

def unescape? : Char → Option Char
  | '"' => some '"'
  | '\\' => some '\\'
  | '/' => some '/'
  | 'b' => some '\x08'
  | 'f' => some '\x0c'
  | 'n' => some '\n'
  | 'r' => some '\r'
  | 't' => some '\t'
  | _ => none

def step : Lexeme → Char → Option (List Token × Lexeme)
  | .between, c => start c
  | .word rest, c =>
      match rest with
      | [] => none
      | [last] => if c = last then some ([.null], .between) else none
      | next :: others => if c = next then some ([], .word others) else none
  | .number value, c =>
      -- The character behind a number is also the start of what follows.
      if c.isDigit then some ([], .number (10 * value + (c.toNat - 48)))
      else (start c).map fun next => (.number value :: next.1, next.2)
  | .text seen, c =>
      if c = '"' then some ([.text seen.reverse], .between)
      else if c = '\\' then some ([], .escape seen)
      else if c.toNat < 0x20 then none
      else some ([], .text (c :: seen))
  | .escape seen, c =>
      if c = 'u' then some ([], .code seen 4 0)
      else (unescape? c).map fun meant => ([], .text (meant :: seen))
  | .code seen missing value, c =>
      match hexDigit? c with
      | none => none
      | some digit =>
          if missing = 1 then
            if (value * 16 + digit).isValidChar then
              some ([], .text (Char.ofNat (value * 16 + digit) :: seen))
            else none
          else some ([], .code seen (missing - 1) (value * 16 + digit))

def ended : Lexeme → Option (List Token)
  | .between => some []
  | .number value => some [.number value]
  | _ => none

inductive Item where
  | mark (token : Token)
  | value (value : Value)
  | field (key : Text) (value : Value)

def Item.value? : Item → Option Value
  | .value held => some held
  | _ => none

def Item.field? : Item → Option (Text × Value)
  | .field key held => some (key, held)
  | _ => none

def place (value : Value) : List Item → List Item
  -- A value behind a key and a colon is a field.
  | .mark .colon :: .value (.text key) :: stack => .field key value :: stack
  | stack => .value value :: stack

/-- The members down to the opening bracket, with a comma between any two, and what lies below. -/
def gather {α : Type} (pick : Item → Option α) (opening : Token) (found : List α) :
    List Item → Option (List α × List Item)
  | item :: .mark mark :: stack =>
      match pick item with
      | none => none
      | some member =>
          if mark = opening then some (member :: found, stack)
          else if mark = .comma then gather pick opening (member :: found) stack
          else none
  | _ => none

def members? {α : Type} (pick : Item → Option α) (opening : Token) :
    List Item → Option (List α × List Item)
  | .mark mark :: stack => if mark = opening then some ([], stack) else none
  | stack => gather pick opening [] stack

def shift (stack : List Item) : Token → Option (List Item)
  | .null => some (place .null stack)
  | .text text => some (place (.text text) stack)
  | .number number => some (place (.number number) stack)
  | .closeArray =>
      (members? Item.value? .openArray stack).map fun found => place (.array found.1) found.2
  | .closeObject =>
      (members? Item.field? .openObject stack).map fun found => place (.object found.1) found.2
  | token => some (.mark token :: stack)

def only? : List Item → Option Value
  | [.value value] => some value
  | _ => none

def read (begun : Lexeme) (stack : List Item) : Text → Option Value
  | [] => (ended begun).bind fun tokens => (tokens.foldlM shift stack).bind only?
  | c :: rest =>
      (step begun c).bind fun next =>
        (next.1.foldlM shift stack).bind fun stack => read next.2 stack rest

def read? (text : Text) : Option Value :=
  read .between [] text

theorem read_quiet {begun : Lexeme} {c : Char} (next : Lexeme) (stack : List Item) (rest : Text)
    (stepped : step begun c = some ([], next)) :
    read begun stack (c :: rest) = read next stack rest := by
  simp [read, stepped]

theorem read_token {begun : Lexeme} {c : Char} {stack : List Item} (token : Token)
    (shifted : List Item) (rest : Text) (stepped : step begun c = some ([token], .between))
    (shifts : shift stack token = some shifted) :
    read begun stack (c :: rest) = read .between shifted rest := by
  simp [read, stepped, shifts]

theorem read_number (number : Nat) (stack : List Item) (c : Char) (rest : Text)
    (apart : c.isDigit = false) :
    read (.number number) stack (c :: rest) =
      read .between (place (.number number) stack) (c :: rest) := by
  have shifts : shift stack (.number number) = some (place (.number number) stack) := rfl
  simp only [read, step, apart, Bool.false_eq_true, if_false]
  cases start c with
  | none => rfl
  | some next => simp [shifts]

theorem read_digits (value : Nat) (digits : Text) (stack : List Item) (rest : Text)
    (all : ∀ c ∈ digits, c.isDigit = true) :
    read (.number value) stack (digits ++ rest) =
      read (.number (Nat.ofDigitChars 10 digits value)) stack rest := by
  induction digits generalizing value with
  | nil => rfl
  | cons c digits ih =>
      rw [List.forall_mem_cons] at all
      rw [List.cons_append, read_quiet (.number (10 * value + (c.toNat - 48))) stack _
        (by simp [step, all.1]), ih _ all.2, Nat.ofDigitChars_cons]
      rfl

theorem read_decimal (number : Nat) (stack : List Item) (rest : Text) :
    read .between stack (decimal number ++ rest) = read (.number number) stack rest := by
  have all : ∀ c ∈ decimal number, c.isDigit = true := fun c member =>
    Nat.isDigit_of_mem_toDigits (by decide) (by decide) member
  have value : Nat.ofDigitChars 10 (decimal number) 0 = number := by simp [decimal]
  cases digits : decimal number with
  | nil => exact absurd digits Nat.toDigits_ne_nil
  | cons first others =>
      rw [digits, List.forall_mem_cons] at all
      rw [digits, Nat.ofDigitChars_cons, Nat.mul_zero, Nat.zero_add] at value
      rw [List.cons_append, read_quiet (.number (first.toNat - 48)) stack _
        (by simp [step, start, all.1]), read_digits _ others stack rest all.2]
      exact congrArg (fun number => read (.number number) stack rest) value

section Escape

variable (seen : Text) (stack : List Item) (rest : Text)

theorem read_escape (mark meant : Char) (other : mark ≠ 'u') (means : unescape? mark = some meant) :
    read (.text seen) stack ('\\' :: mark :: rest) = read (.text (meant :: seen)) stack rest := by
  rw [read_quiet (.escape seen) stack _ rfl,
    read_quiet (.text (meant :: seen)) stack _ (by simp [step, other, means])]

theorem read_digit (missing value digit : Nat) (small : digit < 16) :
    read (.code seen (missing + 2) value) stack (Nat.digitChar digit :: rest) =
      read (.code seen (missing + 1) (value * 16 + digit)) stack rest :=
  read_quiet _ stack rest (by simp [step, hexDigit?_digitChar digit small])

theorem read_lastDigit (c : Char) (value digit : Nat) (small : digit < 16)
    (whole : value * 16 + digit = c.toNat) :
    read (.code seen 1 value) stack (Nat.digitChar digit :: rest) =
      read (.text (c :: seen)) stack rest := by
  have valid : c.toNat.isValidChar := c.valid
  exact read_quiet _ stack rest (by
    simp [step, hexDigit?_digitChar digit small, whole, valid, Char.ofNat_toNat])

theorem read_code (c : Char) (small : c.toNat < 0x20) :
    read (.text seen) stack ('\\' :: 'u' :: '0' :: '0' :: Nat.digitChar (c.toNat / 16) ::
        Nat.digitChar (c.toNat % 16) :: rest) = read (.text (c :: seen)) stack rest := by
  have zero : '0' = Nat.digitChar 0 := rfl
  rw [read_quiet (.escape seen) stack _ rfl, read_quiet (.code seen 4 0) stack _ rfl, zero,
    read_digit seen stack _ 2 0 0 (by decide), read_digit seen stack _ 1 _ 0 (by decide),
    read_digit seen stack _ 0 _ (c.toNat / 16) (by omega),
    read_lastDigit seen stack rest c _ (c.toNat % 16) (by omega) (by omega)]

theorem read_escapeChar (c : Char) :
    read (.text seen) stack (escapeChar c ++ rest) = read (.text (c :: seen)) stack rest := by
  by_cases short : c ∈ ['"', '\\', '\x08', '\t', '\n', '\x0c', '\r']
  · simp only [List.mem_cons, List.not_mem_nil, or_false] at short
    rcases short with rfl | rfl | rfl | rfl | rfl | rfl | rfl <;>
      exact read_escape seen stack rest _ _ (by decide) rfl
  · simp only [List.mem_cons, List.not_mem_nil, or_false, not_or] at short
    by_cases small : c.toNat < 0x20
    · have escaped : escapeChar c = ['\\', 'u', '0', '0', Nat.digitChar (c.toNat / 16),
          Nat.digitChar (c.toNat % 16)] := by simp [escapeChar, short, small]
      rw [escaped]
      exact read_code seen stack rest c small
    · have plain : escapeChar c = [c] := by simp [escapeChar, short, small]
      rw [plain]
      exact read_quiet _ stack rest (by simp [step, short.1, short.2.1, small])

end Escape

theorem read_escaped (text seen : Text) (stack : List Item) (rest : Text) :
    read (.text seen) stack (text.flatMap escapeChar ++ rest) =
      read (.text (text.reverse ++ seen)) stack rest := by
  induction text generalizing seen with
  | nil => rfl
  | cons c text ih =>
      rw [List.flatMap_cons, List.append_assoc, read_escapeChar, ih]
      simp

theorem read_string (text : Text) (stack : List Item) (rest : Text) :
    read .between stack (string text ++ rest) = read .between (place (.text text) stack) rest := by
  have whole : string text ++ rest = '"' :: (text.flatMap escapeChar ++ '"' :: rest) := by
    simp [string]
  rw [whole, read_quiet (.text []) stack _ rfl, read_escaped,
    read_token (.text text) (place (.text text) stack) rest (by simp [step]) rfl]

theorem read_null (stack : List Item) (rest : Text) :
    read .between stack ("null".toList ++ rest) = read .between (place .null stack) rest := by
  have letters : "null".toList ++ rest = 'n' :: 'u' :: 'l' :: 'l' :: rest := rfl
  rw [letters, read_quiet (.word ['u', 'l', 'l']) stack _ rfl,
    read_quiet (.word ['l', 'l']) stack _ rfl, read_quiet (.word ['l']) stack _ rfl,
    read_token .null (place .null stack) rest rfl rfl]

theorem read_blanks (count : Nat) (stack : List Item) (rest : Text) :
    read .between stack (List.replicate count ' ' ++ rest) = read .between stack rest := by
  induction count with
  | zero => rfl
  | succ count ih => rw [List.replicate_succ, List.cons_append, read_quiet .between stack _ rfl, ih]

theorem read_newLine (depth : Nat) (stack : List Item) (rest : Text) :
    read .between stack (newLine depth ++ rest) = read .between stack rest := by
  rw [newLine, List.cons_append, read_quiet .between stack _ rfl, read_blanks]

end Symbolizer.Json
