import Symbolizer.Dump.Plain
import Symbolizer.Table.Basic

set_option autoImplicit false

namespace Symbolizer.Json

def escapeChar (c : Char) : Text :=
  if c = '"' then ['\\', '"']
  else if c = '\\' then ['\\', '\\']
  else if c = '\x08' then ['\\', 'b']
  else if c = '\t' then ['\\', 't']
  else if c = '\n' then ['\\', 'n']
  else if c = '\x0c' then ['\\', 'f']
  else if c = '\r' then ['\\', 'r']
  else if c.toNat < 0x20 then
    ['\\', 'u', '0', '0', Nat.digitChar (c.toNat / 16), Nat.digitChar (c.toNat % 16)]
  else [c]

def string (text : Text) : Text :=
  '"' :: text.flatMap escapeChar ++ ['"']

def stringOrNull : Option Text → Text
  | some text => string text
  | none => "null".toList

def newLine (depth : Nat) : Text :=
  '\n' :: List.replicate (2 * depth) ' '

/-- Brackets that hold nothing stand together. The `depth` is that of the closing bracket. -/
def block (first last : Char) (depth : Nat) : List (List Text) → List Text
  | [] => [[first, last]]
  | member :: rest =>
      [first] :: newLine (depth + 1) :: member ++
        (rest.flatMap fun other => (',' :: newLine (depth + 1)) :: other) ++
        [newLine depth ++ [last]]

def array (depth : Nat) (elements : List (List Text)) : List Text :=
  block '[' ']' depth elements

def object (depth : Nat) (fields : List (Text × List Text)) : List Text :=
  block '\x7b' '\x7d' depth (fields.map fun field => (string field.1 ++ ": ".toList) :: field.2)

def symbolPieces (symbol : Symbol) : List Text :=
  object 4
    [("name".toList, [string symbol.name]), ("address".toList, [decimal symbol.address.toNat])]

def modulePieces (part : Module) : List Text :=
  object 2
    [("name".toList, [stringOrNull part.name]),
      ("symbols".toList, array 3 (part.symbols.map symbolPieces))]

def tablePieces (table : Table) : List Text :=
  object 0 [("modules".toList, array 1 (table.modules.map modulePieces))]

def render (table : Table) : Text :=
  (tablePieces table).flatten ++ ['\n']

def write (sink : Sink) (table : Table) : Written :=
  match sink.writeAll (tablePieces table) with
  | (sink, false) => ⟨sink, some (.notSerialized sink.refusal)⟩
  | (sink, true) =>
      match sink.write ['\n'] with
      | (sink, true) => ⟨sink, none⟩
      | (sink, false) => ⟨sink, some (.notWritten sink.refusal)⟩

end Symbolizer.Json
