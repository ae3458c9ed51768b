import Symbolizer.Table.Basic
import Symbolizer.Text.Lossy

set_option autoImplicit false

namespace Symbolizer

/-- A sink without a bound on its room takes everything. The chunks stand latest first. -/
structure Sink where
  room : Option Nat
  refusal : Text
  chunks : List (List UInt8) := []
  deriving DecidableEq, Repr

namespace Sink

def contents (sink : Sink) : List UInt8 :=
  sink.chunks.reverse.flatten

def write (sink : Sink) (text : Text) : Sink × Bool :=
  let bytes := Text.encode text
  match sink.room with
  | none => ({ sink with chunks := bytes :: sink.chunks }, true)
  | some room =>
      if bytes.length ≤ room then
        ({ sink with room := some (room - bytes.length), chunks := bytes :: sink.chunks }, true)
      else ({ sink with room := some 0, chunks := bytes.take room :: sink.chunks }, false)

def writeAll (sink : Sink) : List Text → Sink × Bool
  | [] => (sink, true)
  | text :: rest =>
      match sink.write text with
      | (next, true) => writeAll next rest
      | (next, false) => (next, false)

end Sink

inductive DumpFailure where
  | notWritten (reason : Text)
  | notSerialized (reason : Text)
  deriving DecidableEq, Repr

def DumpFailure.causes : DumpFailure → List Text
  | .notWritten reason => [reason]
  | .notSerialized reason => ["Failed to serialize symbol table".toList, reason]

structure Written where
  sink : Sink
  failure : Option DumpFailure

namespace Plain

def symbolLines (number : Nat) (symbol : Symbol) : List Text :=
  ["\tSymbol #".toList ++ decimal number ++ ['\n'],
    "\tName: ".toList ++ symbol.name ++ ['\n'],
    "\tAddress: ".toList ++ hexadecimal symbol.address.toNat ++ "\n\n".toList]

def symbolsFrom (number : Nat) : List Symbol → List Text
  | [] => []
  | symbol :: rest => symbolLines number symbol ++ symbolsFrom (number + 1) rest

def heading (number : Nat) (part : Module) : Text :=
  "Module #".toList ++ decimal number ++ " = ".toList ++ part.displayName ++
    ", Number of symbols = ".toList ++ decimal part.symbols.length ++ ['\n']

def modulesFrom (number : Nat) : List Module → List Text
  | [] => []
  | part :: rest =>
      heading number part :: symbolsFrom 1 part.symbols ++ modulesFrom (number + 1) rest

def pieces (table : Table) : List Text :=
  ("Number of modules: ".toList ++ decimal table.moduleCount ++ "\n\n".toList) ::
    modulesFrom 1 table.modules

def render (table : Table) : Text :=
  (pieces table).flatten

def write (sink : Sink) (table : Table) : Written :=
  match sink.writeAll (pieces table) with
  | (sink, true) => ⟨sink, none⟩
  | (sink, false) => ⟨sink, some (.notWritten sink.refusal)⟩

end Plain

end Symbolizer
