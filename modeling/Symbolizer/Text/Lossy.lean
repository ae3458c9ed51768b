import Symbolizer.Text.Basic

set_option autoImplicit false

namespace Symbolizer.Text

def replacement : Char := '\ufffd'

def encode (text : Text) : List UInt8 :=
  text.flatMap String.utf8EncodeChar

theorem encode_cons (head : Char) (rest : Text) :
    encode (head :: rest) = String.utf8EncodeChar head ++ encode rest := rfl

theorem encode_append (first second : Text) :
    encode (first ++ second) = encode first ++ encode second := by
  simp [encode]

/-- A character begun: the bits so far, the bytes still missing and the range of the next one. -/
structure Begun where
  bits : Nat
  missing : Nat
  low : UInt8
  high : UInt8
  deriving DecidableEq

def begin? (byte : UInt8) : Option Begun :=
  -- The range of the second byte shuts out overlong forms, surrogates and code points past the
  -- last.
  if 0xc2 ≤ byte && byte ≤ 0xdf then some ⟨byte.toNat - 0xc0, 1, 0x80, 0xbf⟩
  else if byte = 0xe0 then some ⟨0, 2, 0xa0, 0xbf⟩
  else if byte = 0xed then some ⟨0xd, 2, 0x80, 0x9f⟩
  else if 0xe1 ≤ byte && byte ≤ 0xef then some ⟨byte.toNat - 0xe0, 2, 0x80, 0xbf⟩
  else if byte = 0xf0 then some ⟨0, 3, 0x90, 0xbf⟩
  else if byte = 0xf4 then some ⟨4, 3, 0x80, 0x8f⟩
  else if 0xf1 ≤ byte && byte ≤ 0xf3 then some ⟨byte.toNat - 0xf0, 3, 0x80, 0xbf⟩
  else none

def readFresh (byte : UInt8) : Text × Option Begun :=
  if byte < 0x80 then ([Char.ofNat byte.toNat], none)
  else
    match begin? byte with
    | some begun => ([], some begun)
    | none => ([replacement], none)

def readByte : Option Begun → UInt8 → Text × Option Begun
  | none, byte => readFresh byte
  | some begun, byte =>
      if begun.low ≤ byte && byte ≤ begun.high then
        let bits := begun.bits * 64 + (byte.toNat - 0x80)
        if begun.missing = 1 then ([Char.ofNat bits], none)
        else ([], some ⟨bits, begun.missing - 1, 0x80, 0xbf⟩)
      else
        -- The byte is not part of the broken character and is read again as a start.
        let fresh := readFresh byte
        (replacement :: fresh.1, fresh.2)

def decodeFrom (begun : Option Begun) : List UInt8 → Text
  | [] => if begun.isSome then [replacement] else []
  | byte :: rest =>
      let next := readByte begun byte
      next.1 ++ decodeFrom next.2 rest

def decode (bytes : List UInt8) : Text :=
  decodeFrom none bytes

end Symbolizer.Text
