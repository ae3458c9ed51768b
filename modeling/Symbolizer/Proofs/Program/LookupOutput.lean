import Symbolizer.Proofs.Lookup.Display
import Symbolizer.Proofs.Lookup.Tightest
import Symbolizer.Proofs.Program.Outcome
import Symbolizer.Proofs.Table.OneLine

set_option autoImplicit false

namespace Symbolizer

theorem Address.newline_notMem_display (address : Address) : '\n' ∉ display address :=
  address.notMem_display '\n' rfl (by decide)

theorem Resolved.newline_notMem_display (resolved : Resolved) (name : '\n' ∉ resolved.name) :
    '\n' ∉ resolved.display := by
  simp [display, name, Address.newline_notMem_display]

namespace Table.OneLine

variable {table : Table}

theorem empty : Table.empty.OneLine := by
  simp [Table.OneLine, Table.empty]

theorem newline_notMem_fullName (closed : table.OneLine) (address : Address)
    (candidate : Candidate) (found : table.tightest? address = some candidate) :
    '\n' ∉ candidate.fullName := by
  obtain ⟨_, part, _, split, own, _⟩ := leads_of_tightest? _ _ _ found
  have oneLine : part.OneLine := closed part (by simp [split])
  obtain ⟨⟨base, next⟩, enclosing, rfl⟩ := Option.map_eq_some_iff.1 own
  obtain ⟨_, _, whole, _⟩ := neighbours_of_enclosing? enclosing
  have symbol := oneLine.symbols base (by simp [whole])
  unfold Candidate.fullName
  cases name : part.name with
  | none => simpa using symbol
  | some owner => simp [symbol, oneLine.name owner name]

theorem newline_notMem_lookup (closed : table.OneLine) (address : Address) (resolved : Resolved)
    (found : table.lookup address = some resolved) : '\n' ∉ resolved.display := by
  obtain ⟨candidate, tightest, rfl⟩ := Option.map_eq_some_iff.1 found
  apply Resolved.newline_notMem_display
  intro broken
  exact closed.newline_notMem_fullName address candidate tightest
    ((Text.takeBytes_prefix _ _).subset broken)

end Table.OneLine

namespace Program

def answerLine (table : Table) (address : Address) : Text :=
  Address.display address ++ ' ' ::
    match table.lookup address with
    | some resolved => resolved.display
    | none => "<no symbol>".toList

theorem newline_notMem_answerLine {table : Table} (closed : table.OneLine) (address : Address) :
    '\n' ∉ answerLine table address := by
  have shown := Address.newline_notMem_display address
  unfold answerLine
  cases found : table.lookup address with
  | none => simp [shown]
  | some resolved => simp [shown, closed.newline_notMem_lookup address resolved found]

theorem lookupLine_eq (store : Store) (address : Address) :
    lookupLine store address = answerLine store.published address ++ ['\n'] := by
  unfold lookupLine answerLine Store.lookup
  cases store.published.lookup address <;> simp

section Run

variable (files : FileSystem) (arguments : Arguments)

theorem published_of_built {report : Report}
    (result : (built files arguments).result = .ok report) :
    (∃ outcome, (Source.ofFile files arguments.source).outcome arguments.buildOptions =
        .ok outcome ∧ (built files arguments).store.published = outcome.table) ∨
      files.opening arguments.source = .absent ∧
        (built files arguments).store.published = .empty := by
  rcases Store.build_cases { options := arguments.buildOptions }
    (.ofFile files arguments.source) with
    ⟨outcome, read, _, after⟩ | ⟨absent, after⟩ | ⟨failure, _, _, failed, _⟩
  · exact .inl ⟨outcome, read, by simp [built, after, Store.publish]⟩
  · exact .inr ⟨(Store.build_eq_sourceAbsent_iff _ _).1 absent, by
      simp [built, after, Store.publish]⟩
  · simp [built, failed] at result

theorem oneLine_of_built {report : Report}
    (result : (built files arguments).result = .ok report) :
    (built files arguments).store.published.OneLine := by
  rcases published_of_built files arguments result with ⟨outcome, read, published⟩ | ⟨_, published⟩
  · rw [published]
    exact Source.oneLine_of_outcome _ _ outcome read
  · rw [published]
    exact Table.OneLine.empty

theorem printed_lookup {addresses : List Address} (store : Store) (report : Report)
    (asks : arguments.command = .lookup addresses) :
    printed arguments store report =
      Text.joinLines (addresses.map (answerLine store.published)) := by
  have lines : lookupLine store = fun address => answerLine store.published address ++ ['\n'] :=
    funext (lookupLine_eq store)
  simp [printed, asks, Text.joinLines, List.flatMap_map, lines]

end Run

theorem lookup_output_aligned (files : FileSystem) (host : Host) (arguments : Arguments)
    (addresses : List Address) (asks : arguments.command = .lookup addresses)
    (succeeds : (run files host arguments).status = 0) :
    ∃ table,
      ((∃ outcome, (Source.ofFile files arguments.source).outcome arguments.buildOptions =
          .ok outcome ∧ table = outcome.table) ∨
        files.opening arguments.source = .absent ∧ table = .empty) ∧
      (run files host arguments).output = Text.joinLines (addresses.map (answerLine table)) ∧
      Text.lines (run files host arguments).output = addresses.map (answerLine table) ∧
      ∀ address ∈ addresses, '\n' ∉ answerLine table address := by
  have answering := (status_eq_zero_iff files host arguments).1 succeeds
  obtain ⟨report, result⟩ := exists_report answering
  have closed := oneLine_of_built files arguments result
  have output : (run files host arguments).output = _ :=
    (congrArg RunResult.output (run_of_report host answering result)).trans
      (printed_lookup arguments _ report asks)
  have oneLine : ∀ address ∈ addresses,
      '\n' ∉ answerLine (built files arguments).store.published address :=
    fun address _ => newline_notMem_answerLine closed address
  refine ⟨_, published_of_built files arguments result, output, ?_, oneLine⟩
  rw [output, Text.lines_joinLines]
  simpa using oneLine

/-- A carriage return before a bracket that is never closed, and half of a character behind it. -/
def brokenBytes : List UInt8 :=
  [0x31, 0x20, 0x54, 0x20, 0x61, 0xc3, 0x0a, 0x33, 0x20, 0x54, 0x20, 0x62, 0x0a, 0x31, 0x20, 0x74,
    0x20, 0x63, 0x0d, 0x5b, 0x6d, 0xe2, 0x82, 0x0a, 0x33, 0x20, 0x74, 0x20, 0x64, 0x0d, 0x5b, 0x6d,
    0xe2, 0x82]

def brokenTree : FileTree :=
  FileTree.writeFile {} "k".toList brokenBytes

def brokenLookup : Arguments :=
  { source := "k".toList, quiet := false, skipBaseKernel := true, command := .lookup [2, 9, 2] }

def brokenModule : Module :=
  ⟨some "m\uFFFD".toList, [⟨"c".toList, 1⟩, ⟨"d".toList, 3⟩]⟩

theorem brokenLines_table :
    (buildLines brokenLookup.buildOptions (Text.lines (Text.decode brokenBytes))).table =
      ⟨[brokenModule]⟩ := by
  let entries : List Entry :=
    [⟨1, "c".toList, brokenModule.name⟩, ⟨3, "d".toList, brokenModule.name⟩]
  have kept : Builder.kept { options := brokenLookup.buildOptions }
      (Text.lines (Text.decode brokenBytes)) = entries := by decide +kernel
  have single : runs entries = [entries] :=
    runs_of_owner entries brokenModule.name (by simp [entries]) (by simp [entries])
  have sorted : (Module.ofRun entries).sorted = brokenModule :=
    Module.sorted_of_ascending brokenModule (by decide)
  have modules := buildLines_modules brokenLookup.buildOptions
    (Text.lines (Text.decode brokenBytes))
  rw [kept, single, List.map_singleton, sorted] at modules
  exact congrArg Table.mk modules

theorem lookup_output_of_brokenTree :
    brokenLookup.command = .lookup [2, 9, 2] ∧
      (run brokenTree.fileSystem {} brokenLookup).status = 0 ∧
      Text.lines (run brokenTree.fileSystem {} brokenLookup).output =
        ["0x2 m\uFFFD:c+0x1/0x2".toList, "0x9 <no symbol>".toList,
          "0x2 m\uFFFD:c+0x1/0x2".toList] := by
  have file : Source.ofFile brokenTree.fileSystem brokenLookup.source =
      ⟨"k".toList, .opened { bytes := brokenBytes }⟩ := by decide +kernel
  have read := Source.outcome_of_bytes brokenLookup.buildOptions "k".toList brokenBytes
  rw [← file] at read
  have sound : failure? brokenTree.fileSystem brokenLookup = none := by
    rw [failure?_eq]
    decide +kernel
  have succeeds := (status_eq_zero_iff brokenTree.fileSystem {} brokenLookup).2 sound
  obtain ⟨table, published, _, lines, _⟩ :=
    lookup_output_aligned brokenTree.fileSystem {} brokenLookup [2, 9, 2] rfl succeeds
  have whole : table = ⟨[brokenModule]⟩ := by
    rcases published with ⟨outcome, same, rfl⟩ | ⟨absent, _⟩
    · obtain rfl := Except.ok.inj (read.symm.trans same)
      exact brokenLines_table
    · exact absurd absent (by decide +kernel)
  refine ⟨rfl, succeeds, ?_⟩
  rw [lines, whole]
  decide +kernel

end Program

end Symbolizer
