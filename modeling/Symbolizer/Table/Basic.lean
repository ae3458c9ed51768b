import Symbolizer.Address
import Symbolizer.Text.Basic

set_option autoImplicit false

namespace Symbolizer

structure Symbol where
  name : Text
  address : Address
  deriving DecidableEq, Repr

structure Module where
  name : Option Text
  symbols : List Symbol
  deriving DecidableEq, Repr

structure Table where
  modules : List Module
  deriving DecidableEq, Repr

def Module.displayName (part : Module) : Text :=
  part.name.getD "kernel space".toList

def Module.sorted (part : Module) : Module :=
  -- Ascending addresses; symbols of one address keep their order.
  { part with symbols := part.symbols.mergeSort fun left right => left.address ≤ right.address }

namespace Table

def empty : Table := ⟨[]⟩

def symbols (table : Table) : List Symbol :=
  table.modules.flatMap Module.symbols

def symbolCount (table : Table) : Nat :=
  table.symbols.length

def moduleCount (table : Table) : Nat :=
  table.modules.length

def isEmpty (table : Table) : Bool :=
  table.modules.isEmpty

def addressesHidden (table : Table) : Bool :=
  -- Whether there are symbols and all of them stand at address zero, as a kernel shows them to a
  -- reader it does not trust.
  0 < table.symbolCount && table.symbols.all fun symbol => symbol.address == 0

def module? (table : Table) (name : Option Text) : Option Module :=
  table.modules.find? fun part => part.name == name

end Table

def nameLimit : Nat := 99

structure Resolved where
  name : Text
  offset : Address
  size : Address
  deriving DecidableEq, Repr

def Resolved.display (resolved : Resolved) : Text :=
  resolved.name ++ '+' :: Address.display resolved.offset ++
    '/' :: Address.display resolved.size

structure Candidate where
  owner : Option Text
  symbol : Text
  offset : Address
  size : Address
  deriving DecidableEq, Repr

namespace Candidate

def isTighterThan (candidate other : Candidate) : Bool :=
  candidate.offset < other.offset ||
    (candidate.offset == other.offset && candidate.size < other.size)

def tighter : Option Candidate → Option Candidate → Option Candidate
  -- Of two candidates, the earlier one unless the later one is strictly tighter.
  | none, later => later
  | some earlier, none => some earlier
  | some earlier, some later => if later.isTighterThan earlier then some later else some earlier

def fullName (candidate : Candidate) : Text :=
  match candidate.owner with
  | some owner => owner ++ ':' :: candidate.symbol
  | none => candidate.symbol

def resolved (candidate : Candidate) : Resolved :=
  ⟨Text.takeBytes nameLimit candidate.fullName, candidate.offset, candidate.size⟩

end Candidate

def enclosing? (address : Address) : List Symbol → Option (Symbol × Symbol)
  | base :: next :: rest =>
      if address < next.address then
        if address < base.address then none else some (base, next)
      else enclosing? address (next :: rest)
  | _ => none

theorem neighbours_of_enclosing? {address : Address} {symbols : List Symbol} {base next : Symbol}
    (found : enclosing? address symbols = some (base, next)) :
    ∃ earlier later, symbols = earlier ++ base :: next :: later ∧
      base.address ≤ address ∧ address < next.address := by
  induction symbols with
  | nil => simp [enclosing?] at found
  | cons first rest ih =>
      cases rest with
      | nil => simp [enclosing?] at found
      | cons second others =>
          rw [enclosing?] at found
          split at found
          next high =>
            split at found
            next => simp at found
            next low =>
              obtain ⟨rfl, rfl⟩ : first = base ∧ second = next := by simpa using found
              exact ⟨[], others, rfl, UInt64.not_lt.1 low, high⟩
          next =>
            obtain ⟨earlier, later, whole, bounds⟩ := ih found
            exact ⟨first :: earlier, later, by simp [whole], bounds⟩

def Module.candidate? (part : Module) (address : Address) : Option Candidate :=
  (enclosing? address part.symbols).map fun (base, next) =>
    ⟨part.name, base.name, address - base.address, next.address - base.address⟩

def Table.tightest? (table : Table) (address : Address) : Option Candidate :=
  table.modules.foldl (fun best part => Candidate.tighter best (part.candidate? address)) none

def Table.lookup (table : Table) (address : Address) : Option Resolved :=
  (table.tightest? address).map Candidate.resolved

end Symbolizer
