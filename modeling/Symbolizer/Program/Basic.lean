import Symbolizer.CommandLine.Scan
import Symbolizer.Dump.Json
import Symbolizer.Dump.Plain
import Symbolizer.Preflight
import Symbolizer.Source.Basic
import Symbolizer.Store.Session

set_option autoImplicit false

namespace Symbolizer

inductive RunFailure where
  | sourceIsDirectory (path : Text)
  | notLoaded (failure : LoadFailure)
  | nothingToCheck (path : Text)
  deriving DecidableEq, Repr

namespace RunFailure

def causes : RunFailure → List Text
  | .sourceIsDirectory path => [Preflight.isDirectoryMessage path]
  | .notLoaded failure => "Failed to load kernel symbols".toList :: failure.causes
  | .nothingToCheck path => [path ++ " not present - kernel modules not enabled".toList]

def message (failure : RunFailure) : Text :=
  Text.chain failure.causes

def statusOf (message : Text) : Nat :=
  let lowered := message.map Char.toLower
  if "permission denied".toList.isInfixOf_internal lowered then 77
  else if "not a file".toList.isInfixOf_internal lowered then 2
  else 1

def status (failure : RunFailure) : Nat :=
  statusOf failure.message

end RunFailure

structure RunResult where
  status : Nat
  output : Text
  diagnostics : Text
  deriving DecidableEq, Repr

/-- What a run has written so far; what it has printed is pending until it is flushed. -/
structure Streams where
  output : Text := []
  pending : List Text := []
  diagnostics : Text := []
  deriving DecidableEq, Repr

namespace Streams

def print (streams : Streams) (text : Text) : Streams :=
  { streams with pending := text :: streams.pending }

def printAll (streams : Streams) (texts : List Text) : Streams :=
  texts.foldl print streams

def flush (streams : Streams) : Streams :=
  { streams with output := streams.output ++ streams.pending.reverse.flatten, pending := [] }

def complain (streams : Streams) (text : Text) : Streams :=
  { streams with diagnostics := streams.diagnostics ++ text }

end Streams

namespace Program

def lookupLine (store : Store) (address : Address) : Text :=
  Address.display address ++ ' ' ::
    (match store.lookup address with
      | some resolved => resolved.display
      | none => "<no symbol>".toList) ++ ['\n']

def checkLines (path : Text) (table : Table) (symbols modules : Nat) : List Text :=
  ["source: ".toList ++ path ++ ['\n'],
    "modules: ".toList ++ decimal modules ++ ['\n'],
    "symbols: ".toList ++ decimal symbols ++ ['\n']] ++
    if table.addressesHidden then ["warning: all addresses are zero (kptr_restrict)\n".toList]
    else []

def absentWarning (path : Text) : Text :=
  "warning: ".toList ++ path ++ " not present, nothing can resolve\n".toList

def answer (arguments : Arguments) (store : Store) (report : Report) (streams : Streams) :
    Streams × Option RunFailure :=
  match arguments.command with
  | .dump true => (streams.printAll (Json.tablePieces store.published ++ [['\n']]), none)
  | .dump false => (streams.printAll (Plain.pieces store.published), none)
  | .lookup addresses =>
      let warned :=
        if report.isSuccess || arguments.quiet then streams
        else streams.complain (absentWarning arguments.source)
      (warned.printAll (addresses.map (lookupLine store)), none)
  | .check =>
      match report with
      | .loaded symbols modules =>
          (streams.printAll (checkLines arguments.source store.published symbols modules), none)
      | .empty => (streams.print "no module symbols loaded\n".toList, none)
      | .sourceAbsent => (streams.flush, some (.nothingToCheck arguments.source))

def attempt (files : FileSystem) (host : Host) (arguments : Arguments) :
    Streams × Option RunFailure :=
  match Preflight.check files host arguments.source arguments.quiet with
  | .isDirectory => ({}, some (.sourceIsDirectory arguments.source))
  | .passed notices =>
      let store : Store := { options := arguments.buildOptions }
      let built := store.build (.ofFile files arguments.source)
      let streams := (({} : Streams).complain (host.logged notices)).complain
        (host.logged built.journal)
      match built.result with
      | .error failure => (streams, some (.notLoaded failure))
      | .ok report => answer arguments built.store report streams

def conclude : Streams × Option RunFailure → RunResult
  -- What is pending at the end is written in any case.
  | (streams, none) => ⟨0, streams.flush.output, streams.diagnostics⟩
  | (streams, some failure) =>
      ⟨failure.status, streams.flush.output,
        streams.diagnostics ++ "error: ".toList ++ failure.message ++ ['\n']⟩

def run (files : FileSystem) (host : Host) (arguments : Arguments) : RunResult :=
  conclude (attempt files host arguments)

end Program

end Symbolizer
