import Symbolizer.Address
import Symbolizer.Table.Basic
import Symbolizer.Text.Basic

set_option autoImplicit false

namespace Symbolizer

structure Entry where
  address : Address
  name : Text
  owner : Option Text
  deriving DecidableEq, Repr

namespace Entry

def splitOwner (line : Text) : Text × Option Text :=
  -- A bracket that is never closed names the rest of the line.
  match Text.cut? '[' line with
  | none => (line, none)
  | some (described, bracketed) =>
      let owner :=
        match Text.cut? ']' bracketed with
        | some (owner, _) => owner
        | none => bracketed
      (Text.trimEnd described, some owner)

def describe? (described : Text) : Option (Address × Text) :=
  -- The address field and the name; the kind and the byte behind it are skipped unread.
  match Text.cut? ' ' described with
  | none => none
  | some (field, rest) =>
      (Text.dropBytes? 2 rest).map fun name => (Address.readLeading field, name)

def parse? (line : Text) : Option Entry :=
  let parts := splitOwner line
  (describe? parts.1).map fun described => ⟨described.1, described.2, parts.2⟩

def paddedAddress (address : Address) : Text :=
  let digits := hexadecimal address.toNat
  List.replicate (16 - digits.length) '0' ++ digits

/-- The kind of symbol and the blank before the bracket are not part of the entry. -/
def render (kind blank : Char) (entry : Entry) : Text :=
  paddedAddress entry.address ++ ' ' :: kind :: ' ' :: entry.name ++
    match entry.owner with
    | none => []
    | some owner => blank :: '[' :: owner ++ [']']

end Entry

structure BuildOptions where
  skipBaseKernel : Bool := false
  deriving DecidableEq, Repr

/-- The modules begun so far, the latest first, each with its latest symbol first. -/
structure Builder where
  options : BuildOptions
  begun : List Module := []
  seenNamed : Bool := false
  skipped : Nat := 0
  malformed : List Text := []
  deriving DecidableEq, Repr

inductive Verdict where
  | kept (entry : Entry)
  | filtered
  | malformed
  deriving DecidableEq, Repr

def Verdict.isKept : Verdict → Bool
  | .kept _ => true
  | _ => false

def Verdict.kept? : Verdict → Option Entry
  | .kept entry => some entry
  | _ => none

structure BuildOutcome where
  table : Table
  symbols : Nat
  modules : Nat
  skipped : Nat
  deriving DecidableEq, Repr

def Entry.symbol (entry : Entry) : Symbol :=
  ⟨entry.name, entry.address⟩

@[simp] theorem Entry.symbol_name (entry : Entry) : entry.symbol.name = entry.name := rfl

@[simp] theorem Entry.symbol_address (entry : Entry) : entry.symbol.address = entry.address := rfl

namespace Builder

def judge (builder : Builder) (line : Text) : Verdict :=
  -- The filter looks for a bracket only, before the line is read.
  if (builder.seenNamed || builder.options.skipBaseKernel) && !line.contains '[' then .filtered
  else
    match Entry.parse? line with
    | some entry => .kept entry
    | none => .malformed

def addTo (entry : Entry) : List Module → List Module
  -- Put the symbol into the latest module, or into a new one where the owner changes.
  | [] => [⟨entry.owner, [entry.symbol]⟩]
  | latest :: earlier =>
      if latest.name = entry.owner then
        { latest with symbols := entry.symbol :: latest.symbols } :: earlier
      else ⟨entry.owner, [entry.symbol]⟩ :: latest :: earlier

def push (builder : Builder) (line : Text) : Builder :=
  match builder.judge line with
  | .kept entry =>
      { builder with
        begun := addTo entry builder.begun
        seenNamed := builder.seenNamed || entry.owner.isSome }
  | .filtered => { builder with skipped := builder.skipped + 1 }
  | .malformed =>
      { builder with
        skipped := builder.skipped + 1
        malformed := line :: builder.malformed }

def pushAll (builder : Builder) (lines : List Text) : Builder :=
  lines.foldl push builder

def verdicts (builder : Builder) : List Text → List Verdict
  | [] => []
  | line :: rest => builder.judge line :: verdicts (builder.push line) rest

def kept (builder : Builder) (lines : List Text) : List Entry :=
  (builder.verdicts lines).filterMap Verdict.kept?

def inOrder (begun : List Module) : List Module :=
  -- Modules in the order of the lines, each with its symbols in that order.
  begun.reverse.map fun part => { part with symbols := part.symbols.reverse }

def finish (builder : Builder) : BuildOutcome :=
  let table : Table := ⟨(inOrder builder.begun).map Module.sorted⟩
  { table
    symbols := table.symbolCount
    modules := table.moduleCount
    skipped := builder.skipped }

end Builder

def buildLines (options : BuildOptions) (lines : List Text) : BuildOutcome :=
  (Builder.pushAll { options } lines).finish

end Symbolizer
