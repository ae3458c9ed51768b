import Symbolizer.Source.Basic
import Symbolizer.Table.Basic
import Symbolizer.Table.Builder
import Symbolizer.Text.Quoted

set_option autoImplicit false

namespace Symbolizer

structure Load where
  result : Except LoadFailure BuildOutcome
  journal : Journal

namespace Source

def loadingNotice (name : Text) : Notice :=
  ⟨.debug, "Loading kernel module symbols - Source: ".toList ++ name⟩

def malformedNotice (line : Text) : Notice :=
  ⟨.debug, "Skipping malformed symbol line: ".toList ++ Text.quote line⟩

def load (options : BuildOptions) (source : Source) : Load :=
  match source.opening with
  | .absent => ⟨.error (.absent source.name), []⟩
  | .refused reason => ⟨.error (.notOpened source.name reason), []⟩
  | .opened stream =>
      let read := stream.readAll
      let builder := Builder.pushAll { options } read.1
      let journal := loadingNotice source.name :: builder.malformed.reverse.map malformedNotice
      match read.2 with
      | some reason => ⟨.error (.notRead reason), journal⟩
      | none => ⟨.ok builder.finish, journal⟩

def outcome (options : BuildOptions) (source : Source) : Except LoadFailure BuildOutcome :=
  (source.load options).result

end Source

structure Store where
  options : BuildOptions
  published : Table := .empty
  deriving DecidableEq, Repr

inductive Report where
  | loaded (symbols modules : Nat)
  | empty
  | sourceAbsent
  deriving DecidableEq, Repr

def Report.isSuccess : Report → Bool
  -- An empty source counts as a success; one that is not there does not.
  | .sourceAbsent => false
  | _ => true

structure Built where
  store : Store
  result : Except LoadFailure Report
  journal : Journal

namespace Store

def hiddenNotice (symbols : Nat) : Notice :=
  ⟨.warning, "All ".toList ++ decimal symbols ++
    " symbol addresses read as zero; check kernel.kptr_restrict or run as root".toList⟩

def loadedNotice (symbols modules : Nat) : Notice :=
  ⟨.info, "Loaded ".toList ++ decimal symbols ++
    (if symbols = 1 then " symbol from ".toList else " symbols from ".toList) ++
    decimal modules ++ (if modules = 1 then " module.".toList else " modules.".toList)⟩

def report (outcome : BuildOutcome) : Report :=
  if outcome.symbols = 0 then .empty else .loaded outcome.symbols outcome.modules

def outcomeJournal (outcome : BuildOutcome) : Journal :=
  let hidden := if outcome.table.addressesHidden then [hiddenNotice outcome.symbols] else []
  let summary :=
    match report outcome with
    | .loaded symbols modules => loadedNotice symbols modules
    | _ => ⟨.info, "No module symbols loaded.".toList⟩
  hidden ++ [summary]

def publish (store : Store) (table : Table) : Store :=
  { store with published := table }

def build (store : Store) (source : Source) : Built :=
  let load := source.load store.options
  match load.result with
  | .ok outcome =>
      { store := store.publish outcome.table
        result := .ok (report outcome)
        journal := load.journal ++ outcomeJournal outcome }
  | .error (.absent _) =>
      { store := store.publish .empty
        result := .ok .sourceAbsent
        journal := load.journal ++
          [⟨.info, "No module symbols loaded - kernel modules not enabled.".toList⟩] }
  | .error failure =>
      { store
        result := .error failure
        journal := load.journal ++
          [⟨.error, "Error loading kernel symbols - ".toList ++ failure.message⟩] }

def lookup (store : Store) (address : Address) : Option Resolved :=
  store.published.lookup address

def reset (store : Store) : Store :=
  store.publish .empty

end Store

structure Session where
  store : Store
  held : List Table := []
  deriving DecidableEq, Repr

inductive Action where
  | build (source : Source)
  | reset
  | lookup (address : Address)
  | snapshot
  | hold
  deriving DecidableEq, Repr

inductive Reply where
  | built (result : Except LoadFailure Report) (journal : Journal)
  | done
  | resolved (answer : Option Resolved)
  | table (table : Table)
  | slot (number : Nat)

namespace Session

def perform (session : Session) : Action → Session × Reply
  | .build source =>
      let built := session.store.build source
      ({ session with store := built.store }, .built built.result built.journal)
  | .reset => ({ session with store := session.store.reset }, .done)
  | .lookup address => (session, .resolved (session.store.lookup address))
  | .snapshot => (session, .table session.store.published)
  | .hold =>
      ({ session with held := session.held ++ [session.store.published] },
        .slot session.held.length)

def run (session : Session) (actions : List Action) : Session :=
  actions.foldl (fun current action => (current.perform action).1) session

end Session

end Symbolizer
