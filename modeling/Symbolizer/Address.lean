import Symbolizer.Text.Basic
import Symbolizer.Text.Blank

set_option autoImplicit false

namespace Symbolizer

def decimal (number : Nat) : Text :=
  Nat.toDigits 10 number

def hexadecimal (number : Nat) : Text :=
  Nat.toDigits 16 number

def hexDigit? (c : Char) : Option Nat :=
  if '0' ≤ c && c ≤ '9' then some (c.toNat - 48)
  else if 'a' ≤ c && c ≤ 'f' then some (c.toNat - 87)
  else if 'A' ≤ c && c ≤ 'F' then some (c.toNat - 55)
  else none

def isHexDigit (c : Char) : Bool :=
  (hexDigit? c).isSome

def hexValue (digits : Text) : Nat :=
  -- The number a run of digits denotes, the most significant one first.
  digits.foldl (fun value c => value * 16 + (hexDigit? c).getD 0) 0

def largestWord : UInt64 := 0xffffffffffffffff

def wordRoom : UInt64 := 0x1000000000000000

def clampDigit (word : UInt64) (c : Char) : UInt64 :=
  if word < wordRoom then word * 16 + ((hexDigit? c).getD 0).toUInt64 else largestWord

def readClamped (digits : Text) : UInt64 :=
  digits.foldl clampDigit 0

def exactDigit? (word : UInt64) (c : Char) : Option UInt64 :=
  match hexDigit? c with
  | some digit => if word < wordRoom then some (word * 16 + digit.toUInt64) else none
  | none => none

def readExact? (digits : Text) : Option UInt64 :=
  digits.foldlM exactDigit? 0

abbrev Address := UInt64

inductive AddressError where
  | empty
  | invalid (text : Text)
  deriving DecidableEq, Repr

def AddressError.message : AddressError → Text
  | .empty => "Empty address".toList
  | .invalid text => "Invalid hexadecimal address: ".toList ++ text

namespace Address

def display (address : Address) : Text :=
  '0' :: 'x' :: hexadecimal address.toNat

def afterMark? : Text → Option Text
  | '0' :: 'x' :: digits => some digits
  | '0' :: 'X' :: digits => some digits
  | _ => none

def unsigned : Text → Text
  -- One plus sign may stand before the digits, a minus sign may not.
  | '+' :: digits => digits
  | digits => digits

def parse (text : Text) : Except AddressError Address :=
  let trimmed := Text.trim text
  let digits := (afterMark? trimmed).getD trimmed
  if digits.isEmpty then .error .empty
  else if (unsigned digits).isEmpty then .error (.invalid trimmed)
  else
    match readExact? (unsigned digits) with
    | some address => .ok address
    | none => .error (.invalid trimmed)

def leadingDigits (field : Text) : Text :=
  -- The digits at the start, if any, with the mark before them only where a digit follows it.
  let trimmed := Text.trimStart field
  let unmarked :=
    match afterMark? trimmed with
    | some (digit :: rest) => if isHexDigit digit then digit :: rest else trimmed
    | _ => trimmed
  unmarked.takeWhile isHexDigit

def readLeading (field : Text) : Address :=
  readClamped (leadingDigits field)

end Address

end Symbolizer
