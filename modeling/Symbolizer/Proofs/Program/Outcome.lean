import Symbolizer.Program.Basic
import Symbolizer.Proofs.Preflight

set_option autoImplicit false

namespace Symbolizer

theorem RunFailure.status_ne_zero (failure : RunFailure) : failure.status ≠ 0 := by
  simp only [status, statusOf]
  split
  next => simp
  next => split <;> simp

namespace Streams

theorem printAll_eq (streams : Streams) (texts : List Text) :
    streams.printAll texts = { streams with pending := texts.reverse ++ streams.pending } := by
  induction texts generalizing streams with
  | nil => rfl
  | cons text rest ih =>
      have step : streams.printAll (text :: rest) = (streams.print text).printAll rest := rfl
      rw [step, ih]
      simp [print]

@[simp] theorem flush_printAll_output (streams : Streams) (texts : List Text) :
    (streams.printAll texts).flush.output = streams.flush.output ++ texts.flatten := by
  simp [printAll_eq, flush]

@[simp] theorem printAll_diagnostics (streams : Streams) (texts : List Text) :
    (streams.printAll texts).diagnostics = streams.diagnostics := by
  rw [printAll_eq]

@[simp] theorem flush_complain_output (streams : Streams) (text : Text) :
    (streams.complain text).flush.output = streams.flush.output := rfl

end Streams

namespace Program

def built (files : FileSystem) (arguments : Arguments) : Built :=
  Store.build { options := arguments.buildOptions } (.ofFile files arguments.source)

/-- The notices of a run, in the order in which they come up. -/
def journal (files : FileSystem) (host : Host) (arguments : Arguments) : Journal :=
  match Preflight.check files host arguments.source arguments.quiet with
  | .isDirectory => []
  | .passed notices => notices ++ (built files arguments).journal

def failure? (files : FileSystem) (arguments : Arguments) : Option RunFailure :=
  if files.kind? arguments.source = some .directory then
    some (.sourceIsDirectory arguments.source)
  else
    match (built files arguments).result with
    | .error failure => some (.notLoaded failure)
    | .ok report =>
        if arguments.command = .check ∧ report = .sourceAbsent then
          some (.nothingToCheck arguments.source)
        else none

def printed (arguments : Arguments) (store : Store) (report : Report) : Text :=
  match arguments.command with
  | .dump true => Json.render store.published
  | .dump false => Plain.render store.published
  | .lookup addresses => addresses.flatMap (lookupLine store)
  | .check =>
      match report with
      | .loaded symbols modules =>
          (checkLines arguments.source store.published symbols modules).flatten
      | .empty => "no module symbols loaded\n".toList
      | .sourceAbsent => []

def warning (arguments : Arguments) (report : Report) : Text :=
  match arguments.command with
  | .lookup _ =>
      if report.isSuccess || arguments.quiet then [] else absentWarning arguments.source
  | _ => []

theorem answer_of_nothing {arguments : Arguments} {report : Report} (store : Store)
    (streams : Streams) (nothing : arguments.command = .check ∧ report = .sourceAbsent) :
    answer arguments store report streams =
      (streams.flush, some (.nothingToCheck arguments.source)) := by
  obtain ⟨checks, rfl⟩ := nothing
  simp [answer, checks]

theorem answer_of_something {arguments : Arguments} {report : Report} (store : Store)
    (streams : Streams) (something : ¬(arguments.command = .check ∧ report = .sourceAbsent)) :
    ∃ ended, answer arguments store report streams = (ended, none) ∧
      ended.flush.output = streams.flush.output ++ printed arguments store report ∧
      ended.diagnostics = streams.diagnostics ++ warning arguments report := by
  unfold answer printed warning
  cases asked : arguments.command with
  | dump json =>
      cases json with
      | true => exact ⟨_, rfl, by simp [Json.render], by simp⟩
      | false => exact ⟨_, rfl, by simp [Plain.render], by simp⟩
  | lookup addresses =>
      by_cases quietly : (report.isSuccess || arguments.quiet) = true
      · exact ⟨_, rfl, by simp [quietly, List.flatMap_def], by simp [quietly]⟩
      · exact ⟨_, rfl, by simp [quietly, List.flatMap_def], by simp [quietly, Streams.complain]⟩
  | check =>
      cases report with
      | loaded symbols modules => exact ⟨_, rfl, by simp, by simp⟩
      | empty => exact ⟨_, rfl, by simp [Streams.print, Streams.flush], by simp [Streams.print]⟩
      | sourceAbsent => exact absurd ⟨asked, rfl⟩ something

section Run

variable (files : FileSystem) (host : Host) (arguments : Arguments)

theorem failure?_eq :
    failure? files arguments =
      if files.kind? arguments.source = some .directory then
        some (.sourceIsDirectory arguments.source)
      else
        match files.opening arguments.source with
        | .absent =>
            if arguments.command = .check then some (.nothingToCheck arguments.source) else none
        | .refused reason => some (.notLoaded (.notOpened arguments.source reason))
        | .opened stream => stream.failure.map fun reason => .notLoaded (.notRead reason) := by
  simp only [failure?, built, Store.build_result, Source.ofFile]
  cases files.opening arguments.source with
  | absent => simp
  | refused reason => rfl
  | opened stream =>
      cases failing : stream.failure <;> simp [failing, Store.report_ne_sourceAbsent]

theorem failure?_eq_none_iff :
    failure? files arguments = none ↔
      files.kind? arguments.source ≠ some .directory ∧
      (∃ report, (built files arguments).result = .ok report) ∧
      ¬(arguments.command = .check ∧ files.opening arguments.source = .absent) := by
  have absent : (built files arguments).result = .ok .sourceAbsent ↔
      files.opening arguments.source = .absent := Store.build_eq_sourceAbsent_iff _ _
  rw [← absent, failure?]
  by_cases directory : files.kind? arguments.source = some .directory
  · simp [directory]
  · cases (built files arguments).result <;> simp [directory]

/-- A run that is not refused at once builds, and answers what the build reports. -/
theorem attempt_eq (other : files.kind? arguments.source ≠ some .directory) :
    attempt files host arguments =
      let started : Streams := { diagnostics := host.logged (journal files host arguments) }
      match (built files arguments).result with
      | .error failure => (started, some (.notLoaded failure))
      | .ok report => answer arguments (built files arguments).store report started := by
  obtain ⟨notices, passed, _⟩ :=
    Preflight.exists_check_passed files host arguments.source arguments.quiet other
  have started : (({} : Streams).complain (host.logged notices)).complain
      (host.logged (built files arguments).journal) =
        { diagnostics := host.logged (journal files host arguments) } := by
    simp [journal, passed, Host.logged, Streams.complain]
  rw [attempt, passed, ← started]
  rfl

variable {files} {arguments}

theorem failure_cases {failure : RunFailure} (failing : failure? files arguments = some failure) :
    files.kind? arguments.source = some .directory ∧
        failure = .sourceIsDirectory arguments.source ∨
      files.kind? arguments.source ≠ some .directory ∧
        ((∃ loading, (built files arguments).result = .error loading ∧
            failure = .notLoaded loading) ∨
          arguments.command = .check ∧ (built files arguments).result = .ok .sourceAbsent ∧
            failure = .nothingToCheck arguments.source) := by
  by_cases directory : files.kind? arguments.source = some .directory
  · exact .inl ⟨directory, by simpa [failure?, directory, eq_comm] using failing⟩
  · refine .inr ⟨directory, ?_⟩
    cases result : (built files arguments).result with
    | error loading =>
        exact .inl ⟨loading, rfl, by simpa [failure?, directory, result, eq_comm] using failing⟩
    | ok report =>
        obtain ⟨⟨checks, rfl⟩, same⟩ : (arguments.command = .check ∧ report = .sourceAbsent) ∧
            RunFailure.nothingToCheck arguments.source = failure := by
          simpa [failure?, directory, result] using failing
        exact .inr ⟨checks, rfl, same.symm⟩

theorem run_of_failure {failure : RunFailure}
    (failing : failure? files arguments = some failure) :
    run files host arguments =
      ⟨failure.status, [],
        host.logged (journal files host arguments) ++ "error: ".toList ++ failure.message ++
          ['\n']⟩ := by
  rcases failure_cases failing with ⟨directory, rfl⟩ | ⟨other, loads⟩
  · have refused := (Preflight.check_eq_isDirectory_iff files host _ arguments.quiet).2 directory
    simp [run, attempt, refused, conclude, journal, Host.logged, Streams.flush]
  · rw [run, attempt_eq files host arguments other]
    rcases loads with ⟨loading, result, rfl⟩ | ⟨checks, result, rfl⟩
    · simp only [result]
      rfl
    · simp only [result, answer_of_nothing _ _ ⟨checks, rfl⟩]
      rfl

theorem run_of_report {report : Report} (answering : failure? files arguments = none)
    (result : (built files arguments).result = .ok report) :
    run files host arguments =
      ⟨0, printed arguments (built files arguments).store report,
        host.logged (journal files host arguments) ++ warning arguments report⟩ := by
  have other := ((failure?_eq_none_iff files arguments).1 answering).1
  have something : ¬(arguments.command = .check ∧ report = .sourceAbsent) := by
    intro nothing
    simp [failure?, other, result, nothing] at answering
  obtain ⟨ended, answered, output, diagnostics⟩ :=
    answer_of_something (built files arguments).store
      { diagnostics := host.logged (journal files host arguments) } something
  rw [run, attempt_eq files host arguments other]
  simp only [result, answered, conclude, output, diagnostics]
  rfl

theorem exists_report (answering : failure? files arguments = none) :
    ∃ report, (built files arguments).result = .ok report :=
  ((failure?_eq_none_iff files arguments).1 answering).2.1

variable (files) (arguments)

theorem status_eq_zero_iff :
    (run files host arguments).status = 0 ↔ failure? files arguments = none := by
  cases failing : failure? files arguments with
  | some failure => simp [run_of_failure host failing, failure.status_ne_zero]
  | none =>
      obtain ⟨report, result⟩ := exists_report failing
      simp [run_of_report host failing result]

end Run

end Program

end Symbolizer
