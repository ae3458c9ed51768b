import Symbolizer.Proofs.Program.Outcome
import Symbolizer.Proofs.Text.Phrase

set_option autoImplicit false

namespace Symbolizer

open Text (Says EndsApart StartsApart Unbroken lowered chain says_append_left
  says_append_of_endsApart says_append_of_startsApart)

def permissionPhrase : Text := "permission denied".toList

def filePhrase : Text := "not a file".toList

def phrases : List Text := [permissionPhrase, filePhrase]

theorem unbroken_of_mem {phrase : Text} (searched : phrase ∈ phrases) : Unbroken phrase := by
  have parts : ∀ phrase ∈ phrases, phrase ≠ [] ∧ phrase.head? ≠ some ' ' ∧ ':' ∉ phrase := by
    decide
  obtain ⟨occupied, first, whole⟩ := parts phrase searched
  exact ⟨occupied, first, whole⟩

/-- What a failed run can fail for, as its status is to tell it. -/
inductive Cause where
  | directory
  | permission
  | other
  deriving DecidableEq, Repr

def Cause.status : Cause → Nat
  | .directory => 2
  | .permission => 77
  | .other => 1

theorem Cause.status_inj {cause blamed : Cause} :
    cause.status = blamed.status ↔ cause = blamed := by
  cases cause <;> cases blamed <;> decide

/-- The system has two answers for a lack of permission. -/
def Refusal.lacksPermission : Refusal → Bool
  | .permissionDenied | .notPermitted => true
  | _ => false

namespace PathFailure

def cause : PathFailure → Cause
  | .refused refusal => if refusal.lacksPermission then .permission else .other
  | _ => .other

/-- What the message of the failure lets the status tell. -/
def told : PathFailure → Cause
  | .refused .permissionDenied => .permission
  | _ => .other

theorem reason_eq_iff (failure : PathFailure) (refusal : Refusal)
    (lacks : refusal.lacksPermission = true) :
    failure.reason = refusal.reason ↔ failure = .refused refusal := by
  cases refusal with
  | permissionDenied | notPermitted =>
      cases failure with
      | refused other => cases other <;> decide +kernel
      | notFound | notADirectory | nameTooLong | nulByte => decide +kernel
  | _ => contradiction

theorem says_reason (failure : PathFailure) :
    (Says permissionPhrase failure.reason ↔ failure.told = .permission) ∧
      ¬Says filePhrase failure.reason := by
  cases failure with
  | refused refusal => cases refusal <;> decide +kernel
  | notFound | notADirectory | nameTooLong | nulByte => decide +kernel

theorem cause_eq_permission_iff (failure : PathFailure) :
    failure.cause = .permission ↔
      ∃ refusal : Refusal, refusal.lacksPermission = true ∧ failure = .refused refusal := by
  cases failure with
  | refused refusal => cases lacks : refusal.lacksPermission <;> simp [cause, lacks]
  | notFound | notADirectory | nameTooLong | nulByte => simp [cause]

theorem cause_ne_directory (failure : PathFailure) : failure.cause ≠ .directory := by
  cases failure with
  | refused refusal => cases lacks : refusal.lacksPermission <;> simp [cause, lacks]
  | notFound | notADirectory | nameTooLong | nulByte => simp [cause]

theorem told_eq (failure : PathFailure) :
    failure.told = if failure = .refused .notPermitted then .other else failure.cause := by
  cases failure with
  | refused refusal => cases refusal <;> rfl
  | notFound | notADirectory | nameTooLong | nulByte => rfl

theorem told_ne_directory (failure : PathFailure) : failure.told ≠ .directory := by
  rw [failure.told_eq]
  split
  next => simp
  next => exact failure.cause_ne_directory

end PathFailure

def statusFor (path : Text) (cause : Cause) : Nat :=
  if cause ≠ .permission ∧ Says permissionPhrase path then 77
  else if cause = .other ∧ Says filePhrase path then 2
  else cause.status

theorem statusFor_eq (path : Text) (cause : Cause) :
    statusFor path cause =
      if cause = .permission ∨ Says permissionPhrase path then 77
      else if cause = .directory ∨ Says filePhrase path then 2
      else 1 := by
  cases cause <;> simp [statusFor, Cause.status]

namespace RunFailure

theorem statusOf_eq (message : Text) :
    statusOf message =
      if Says permissionPhrase message then 77 else if Says filePhrase message then 2 else 1 := by
  simp only [statusOf, List.isInfixOf_internal_iff_isInfix]
  rfl

theorem status_of_says {failure : RunFailure} {path : Text} {told : Cause}
    (permission : Says permissionPhrase failure.message ↔
      told = .permission ∨ Says permissionPhrase path)
    (file : Says filePhrase failure.message ↔ told = .directory ∨ Says filePhrase path) :
    failure.status = statusFor path told := by
  simp only [status, statusOf_eq, statusFor_eq, permission, file]

section Status

variable {phrase : Text} (path : Text)

theorem status_sourceIsDirectory :
    (sourceIsDirectory path).status = statusFor path .directory := by
  let before := "Not a file: ".toList
  let after := "\n\n--source must point to a kallsyms-format file, not a directory.".toList
  have message : (sourceIsDirectory path).message = before ++ path ++ after :=
    Text.chain_singleton _
  have ends : EndsApart permissionPhrase (lowered before) := by decide +kernel
  have starts : StartsApart permissionPhrase (lowered after) :=
    Text.startsApart_cons (by decide) _
  have spoken : ¬Says permissionPhrase before ∧ ¬Says permissionPhrase after ∧
      Says filePhrase before := by decide +kernel
  obtain ⟨silent, silentAfter, said⟩ := spoken
  apply status_of_says
  · rw [message, says_append_of_startsApart starts, says_append_of_endsApart ends]
    simp [silent, silentAfter]
  · rw [message]
    exact ⟨fun _ => .inl rfl, fun _ => says_append_left (says_append_left said)⟩

theorem says_nothingToCheck (searched : phrase ∈ phrases) :
    Says phrase (nothingToCheck path).message ↔ Says phrase path := by
  let after := " not present - kernel modules not enabled".toList
  have message : (nothingToCheck path).message = path ++ after := Text.chain_singleton _
  have apart : ∀ phrase ∈ phrases, StartsApart phrase (lowered after) ∧ ¬Says phrase after := by
    decide +kernel
  obtain ⟨starts, silent⟩ := apart phrase searched
  rw [message, says_append_of_startsApart starts, or_iff_left silent]

theorem status_nothingToCheck : (nothingToCheck path).status = statusFor path .other :=
  status_of_says (by simp [says_nothingToCheck path (.head _)])
    (by simp [says_nothingToCheck path (.tail _ (.head _))])

theorem says_notOpened (searched : phrase ∈ phrases) (reason : Text) :
    Says phrase (notLoaded (.notOpened path reason)).message ↔
      Says phrase path ∨ Says phrase reason := by
  let loading := "Failed to load kernel symbols".toList
  let opening := "Failed to open symbol source ".toList
  have message : (notLoaded (.notOpened path reason)).message =
      chain [loading, opening ++ path ++ ": ".toList ++ reason, reason] := rfl
  have apart : ∀ phrase ∈ phrases, ¬Says phrase loading ∧ ¬Says phrase opening ∧
      EndsApart phrase (lowered opening) := by decide +kernel
  obtain ⟨silentLoading, silentOpening, ends⟩ := apart phrase searched
  have unbroken := unbroken_of_mem searched
  rw [message, unbroken.says_chain_cons, unbroken.says_chain_cons, Text.chain_singleton,
    unbroken.says_separated, says_append_of_endsApart ends, or_iff_right silentLoading,
    or_iff_right silentOpening, or_assoc, or_self]

theorem status_notOpened (failure : PathFailure) :
    (notLoaded (.notOpened path failure.reason)).status = statusFor path failure.told := by
  have reason := failure.says_reason
  have undirected := failure.told_ne_directory
  apply status_of_says
  · rw [says_notOpened path (.head _), reason.1, or_comm]
  · simp [says_notOpened path (.tail _ (.head _)), reason.2, undirected]

theorem says_notRead (searched : phrase ∈ phrases) (reason : Text) :
    Says phrase (notLoaded (.notRead reason)).message ↔ Says phrase reason := by
  let loading := "Failed to load kernel symbols".toList
  let reading := "Failed to read symbol source: ".toList
  have message : (notLoaded (.notRead reason)).message =
      chain [loading, reading ++ reason, reason] := rfl
  have apart : ∀ phrase ∈ phrases, ¬Says phrase loading ∧ ¬Says phrase reading ∧
      EndsApart phrase (lowered reading) := by decide +kernel
  obtain ⟨silentLoading, silentReading, ends⟩ := apart phrase searched
  have unbroken := unbroken_of_mem searched
  rw [message, unbroken.says_chain_cons, unbroken.says_chain_cons, Text.chain_singleton,
    says_append_of_endsApart ends, or_iff_right silentLoading, or_iff_right silentReading, or_self]

theorem status_notRead (refusal : Refusal) :
    (notLoaded (.notRead refusal.reason)).status =
      statusFor [] (PathFailure.refused refusal).told := by
  have reason := (PathFailure.refused refusal).says_reason
  have undirected := (PathFailure.refused refusal).told_ne_directory
  have nothing : ¬Says permissionPhrase [] ∧ ¬Says filePhrase [] := by decide
  apply status_of_says
  · rw [says_notRead (.head _), or_iff_left nothing.1]
    exact reason.1
  · rw [says_notRead (.tail _ (.head _)), or_iff_left nothing.2]
    exact ⟨fun said => absurd said reason.2, fun same => absurd same undirected⟩

end Status

end RunFailure

namespace Program

/-- A directory is never opened. -/
def Refused (files : FileSystem) (path : Text) (refusal : Refusal) : Prop :=
  files.kind? path ≠ some .directory ∧
    (files.opening path = .refused refusal.reason ∨
      ∃ bytes, files.opening path = .opened ⟨bytes, some refusal.reason⟩)

def LacksPermission (files : FileSystem) (path : Text) : Prop :=
  ∃ refusal : Refusal, refusal.lacksPermission = true ∧ Refused files path refusal

def Fails (files : FileSystem) (arguments : Arguments) : Cause → Prop
  | .directory => files.kind? arguments.source = some .directory
  | .permission => LacksPermission files arguments.source
  | .other =>
      files.kind? arguments.source ≠ some .directory ∧ ¬LacksPermission files arguments.source ∧
        (arguments.command = .check ∧ files.opening arguments.source = .absent ∨
          (∃ reason, files.opening arguments.source = .refused reason) ∨
          ∃ bytes reason, files.opening arguments.source = .opened ⟨bytes, some reason⟩)

/-- The path as far as a message names it: what goes wrong behind the opening is told without it. -/
def shown (files : FileSystem) (path : Text) : Text :=
  match files.kind? path, files.opening path with
  | some .file, .opened _ => []
  | _, _ => path

/-- A failed run, with the cause it fails for and the one its status tells. -/
structure Verdict (files : FileSystem) (arguments : Arguments) (cause told : Cause) : Prop where
  failure : ∃ failure, failure? files arguments = some failure ∧
    failure.status = statusFor (shown files arguments.source) told
  fails : ∀ blamed, Fails files arguments blamed ↔ blamed = cause
  told_of_notPermitted : Refused files arguments.source .notPermitted → told = .other
  told_otherwise : ¬Refused files arguments.source .notPermitted → told = cause

def Sound (files : FileSystem) (arguments : Arguments) : Prop :=
  failure? files arguments = none ∧ ∀ cause, ¬Fails files arguments cause

section Verdict

variable {files : FileSystem} {arguments : Arguments}

theorem verdict_of_directory (directory : files.kind? arguments.source = some .directory) :
    Verdict files arguments .directory .directory where
  failure := by
    refine ⟨.sourceIsDirectory arguments.source, by simp [failure?_eq, directory], ?_⟩
    simp [RunFailure.status_sourceIsDirectory, shown, directory]
  fails := by
    intro blamed
    cases blamed <;> simp [Fails, LacksPermission, Refused, directory]
  told_of_notPermitted refused := absurd directory refused.1
  told_otherwise _ := rfl

variable (notDirectory : files.kind? arguments.source ≠ some .directory)

include notDirectory

theorem sound_of_read {bytes : List UInt8}
    (opened : files.opening arguments.source = .opened { bytes }) : Sound files arguments := by
  refine ⟨by simp [failure?_eq, notDirectory, opened], ?_⟩
  intro cause
  cases cause <;> simp [Fails, LacksPermission, Refused, notDirectory, opened]

theorem sound_of_absent (absent : files.opening arguments.source = .absent)
    (reads : arguments.command ≠ .check) : Sound files arguments := by
  refine ⟨by simp [failure?_eq, notDirectory, absent, reads], ?_⟩
  intro cause
  cases cause <;> simp [Fails, LacksPermission, Refused, notDirectory, absent, reads]

theorem verdict_of_absent (absent : files.opening arguments.source = .absent)
    (checks : arguments.command = .check) : Verdict files arguments .other .other where
  failure := by
    refine ⟨.nothingToCheck arguments.source, by simp [failure?_eq, notDirectory, absent, checks],
      ?_⟩
    simp [RunFailure.status_nothingToCheck, shown, absent]
  fails := by
    intro blamed
    cases blamed <;> simp [Fails, LacksPermission, Refused, notDirectory, absent, checks]
  told_of_notPermitted _ := rfl
  told_otherwise _ := rfl

theorem verdict_of_reason (failure : RunFailure) {reason : PathFailure}
    (stands : files.opening arguments.source = .refused reason.reason ∨
      ∃ bytes, files.opening arguments.source = .opened ⟨bytes, some reason.reason⟩)
    (failing : failure? files arguments = some failure)
    (status : failure.status = statusFor (shown files arguments.source) reason.told) :
    Verdict files arguments reason.cause reason.told := by
  have refused (refusal : Refusal) (lacks : refusal.lacksPermission = true) :
      Refused files arguments.source refusal ↔ reason = .refused refusal := by
    rw [← reason.reason_eq_iff refusal lacks]
    rcases stands with refused | ⟨bytes, opened⟩
    · simp [Refused, notDirectory, refused]
    · simp [Refused, notDirectory, opened]
  have permission : LacksPermission files arguments.source ↔ reason.cause = .permission := by
    rw [reason.cause_eq_permission_iff]
    exact exists_congr fun refusal => and_congr_right (refused refusal)
  have broken : (∃ reason, files.opening arguments.source = .refused reason) ∨
      ∃ bytes reason, files.opening arguments.source = .opened ⟨bytes, some reason⟩ := by
    rcases stands with refused | ⟨bytes, opened⟩
    · exact .inl ⟨_, refused⟩
    · exact .inr ⟨bytes, _, opened⟩
  have notPermitted := refused .notPermitted rfl
  refine ⟨⟨failure, failing, status⟩, ?_, ?_, ?_⟩
  · intro blamed
    have undirected := reason.cause_ne_directory
    cases blamed with
    | directory => simp [Fails, notDirectory, Ne.symm undirected]
    | permission => simp [Fails, permission, eq_comm]
    | other =>
        cases caused : reason.cause with
        | directory => contradiction
        | permission => simp [Fails, permission, caused]
        | other => simp [Fails, permission, caused, notDirectory, broken]
  · intro denied
    rw [reason.told_eq, if_pos (notPermitted.1 denied)]
  · intro granted
    rw [reason.told_eq, if_neg fun same => granted (notPermitted.2 same)]

theorem verdict_of_refused (reason : PathFailure)
    (refused : files.opening arguments.source = .refused reason.reason) :
    Verdict files arguments reason.cause reason.told := by
  refine verdict_of_reason notDirectory (.notLoaded (.notOpened arguments.source reason.reason))
    (.inl refused) ?_ ?_
  · simp [failure?_eq, notDirectory, refused]
  · simp [RunFailure.status_notOpened, shown, refused]

end Verdict

theorem verdict_of_broken {files : FileSystem} {arguments : Arguments} {bytes : List UInt8}
    (refusal : Refusal) (file : files.kind? arguments.source = some .file)
    (opened : files.opening arguments.source = .opened ⟨bytes, some refusal.reason⟩) :
    Verdict files arguments (PathFailure.refused refusal).cause
      (PathFailure.refused refusal).told := by
  refine verdict_of_reason (by simp [file]) (.notLoaded (.notRead refusal.reason))
    (.inr ⟨bytes, opened⟩) ?_ ?_
  · simp [failure?_eq, file, opened]
  · simp [RunFailure.status_notRead, shown, file, opened]

theorem sound_or_verdict (tree : FileTree) (arguments : Arguments) :
    Sound tree.fileSystem arguments ∨
      ∃ cause told, Verdict tree.fileSystem arguments cause told := by
  cases kind : tree.kind? arguments.source with
  | some found =>
      cases found with
      | directory => exact .inr ⟨_, _, verdict_of_directory kind⟩
      | file =>
          have notDirectory : tree.fileSystem.kind? arguments.source ≠ some .directory := by
            simp [FileTree.fileSystem, kind]
          rcases tree.opening_of_file arguments.source kind with
            ⟨bytes, opened⟩ | ⟨refusal, refused⟩ | ⟨bytes, refusal, opened⟩
          · exact .inl (sound_of_read notDirectory opened)
          · exact .inr ⟨_, _, verdict_of_refused notDirectory (.refused refusal) refused⟩
          · exact .inr ⟨_, _, verdict_of_broken refusal kind opened⟩
  | none =>
      have notDirectory : tree.fileSystem.kind? arguments.source ≠ some .directory := by
        simp [FileTree.fileSystem, kind]
      -- What cannot be resolved is opened all the same, and only then does it matter why.
      obtain ⟨failure, failed⟩ := (tree.kind?_eq_none_iff arguments.source).1 kind
      have opening : tree.fileSystem.opening arguments.source = _ :=
        tree.opening_of_error arguments.source failed
      by_cases missing : failure = .notFound
      · have absent : tree.fileSystem.opening arguments.source = .absent := by
          simpa [missing] using opening
        by_cases checks : arguments.command = .check
        · exact .inr ⟨_, _, verdict_of_absent notDirectory absent checks⟩
        · exact .inl (sound_of_absent notDirectory absent checks)
      · exact .inr ⟨_, _, verdict_of_refused notDirectory failure (by
          simpa [missing] using opening)⟩

theorem Verdict.status_run {files : FileSystem} {arguments : Arguments} {cause told : Cause}
    (verdict : Verdict files arguments cause told) (host : Host) :
    (run files host arguments).status = statusFor (shown files arguments.source) told := by
  obtain ⟨failure, found, status⟩ := verdict.failure
  rw [run_of_failure host found]
  exact status

theorem statusFor_plain {path : Text} (permission : ¬Says permissionPhrase path)
    (file : ¬Says filePhrase path) (cause : Cause) : statusFor path cause = cause.status := by
  simp [statusFor, permission, file]

theorem shown_plain {phrase : Text} (files : FileSystem) (path : Text) (occupied : phrase ≠ [])
    (plain : ¬Says phrase path) : ¬Says phrase (shown files path) := by
  unfold shown
  split
  next => simpa [Says, lowered] using occupied
  next => exact plain

theorem status_tells_cause (tree : FileTree) (host : Host) (arguments : Arguments) :
    let files := tree.fileSystem
    let status := (run files host arguments).status
    let path := shown files arguments.source
    (∀ cause, Fails files arguments cause → ¬Refused files arguments.source .notPermitted →
      status = statusFor path cause) ∧
    (Refused files arguments.source .notPermitted → status = statusFor path .other) ∧
    ((∀ cause, ¬Fails files arguments cause) → status = 0) ∧
    (¬Says permissionPhrase arguments.source → ¬Says filePhrase arguments.source →
      ¬Refused files arguments.source .notPermitted →
      ∀ cause, status = cause.status ↔ Fails files arguments cause) := by
  intro files status path
  rcases sound_or_verdict tree arguments with ⟨answering, sound⟩ | ⟨cause, told, verdict⟩
  · have succeeds : status = 0 := (status_eq_zero_iff files host arguments).2 answering
    refine ⟨fun cause fails => absurd fails (sound cause), ?_, fun _ => succeeds, ?_⟩
    · intro denied
      exact absurd ⟨.notPermitted, rfl, denied⟩ (sound .permission)
    · intro _ _ _ cause
      rw [succeeds]
      cases cause <;> simp [sound, files, Cause.status]
  · have tells : status = statusFor path told := verdict.status_run host
    refine ⟨?_, ?_, fun sound => absurd ((verdict.fails cause).2 rfl) (sound cause), ?_⟩
    · intro blamed fails granted
      obtain rfl := (verdict.fails blamed).1 fails
      rw [tells, verdict.told_otherwise granted]
    · intro denied
      rw [tells, verdict.told_of_notPermitted denied]
    · intro permission file granted blamed
      rw [tells, verdict.told_otherwise granted, verdict.fails blamed,
        statusFor_plain (shown_plain _ _ (unbroken_of_mem (.head _)).occupied permission)
          (shown_plain _ _ (unbroken_of_mem (.tail _ (.head _))).occupied file),
        Cause.status_inj, eq_comm]

def checking (path : Text) : Arguments :=
  { source := path, quiet := false, skipBaseKernel := false, command := .check }

def lockedTree (refusal : Refusal) : FileTree :=
  let tree := FileTree.makeDirectory {} "/proc".toList
  { tree with
    nodes := ⟨["kallsyms".toList, "proc".toList], .file [], some refusal⟩ :: tree.nodes }

theorem status_of_lockedTree :
    Fails (lockedTree .permissionDenied).fileSystem (checking defaultSource) .permission ∧
      ¬Says permissionPhrase defaultSource ∧ ¬Says filePhrase defaultSource ∧
      ¬Refused (lockedTree .permissionDenied).fileSystem defaultSource .notPermitted ∧
      (run (lockedTree .permissionDenied).fileSystem {} (checking defaultSource)).status = 77 := by
  have refused : (lockedTree .permissionDenied).fileSystem.opening defaultSource =
      .refused Refusal.permissionDenied.reason := by decide +kernel
  have file : (lockedTree .permissionDenied).fileSystem.kind? defaultSource = some .file := by
    decide +kernel
  have notDirectory : (lockedTree .permissionDenied).fileSystem.kind? defaultSource ≠
      some .directory := by simp [file]
  have locked : Fails (lockedTree .permissionDenied).fileSystem (checking defaultSource)
      .permission := ⟨.permissionDenied, rfl, notDirectory, .inl refused⟩
  have granted : ¬Refused (lockedTree .permissionDenied).fileSystem defaultSource
      .notPermitted := by
    rintro ⟨_, denied | ⟨bytes, opened⟩⟩
    · have same := Opening.refused.inj (refused.symm.trans denied)
      exact absurd same (by decide +kernel)
    · exact absurd (refused.symm.trans opened) (by simp)
  have plain : ¬Says permissionPhrase defaultSource ∧ ¬Says filePhrase defaultSource := by
    decide +kernel
  obtain ⟨_, _, _, tells⟩ :=
    status_tells_cause (lockedTree .permissionDenied) {} (checking defaultSource)
  exact ⟨locked, plain.1, plain.2, granted, (tells plain.1 plain.2 granted .permission).2 locked⟩

theorem status_depends_on_path :
    Fails (FileTree.fileSystem {}) (checking "permission denied".toList) .other ∧
      (run (FileTree.fileSystem {}) {} (checking "permission denied".toList)).status = 77 ∧
      Fails (FileTree.fileSystem {}) (checking "missing".toList) .other ∧
      (run (FileTree.fileSystem {}) {} (checking "missing".toList)).status = 1 ∧
      Fails (lockedTree .notPermitted).fileSystem (checking defaultSource) .permission ∧
      (run (lockedTree .notPermitted).fileSystem {} (checking defaultSource)).status = 1 := by
  have checkingAbsent (path : Text) (absent : FileTree.opening {} path = .absent)
      (nothing : FileTree.kind? {} path = none) :
      Fails (FileTree.fileSystem {}) (checking path) .other := by
    simp [Fails, LacksPermission, Refused, FileTree.fileSystem, checking, absent, nothing]
  refine ⟨checkingAbsent _ ?_ ?_, ?_, checkingAbsent _ ?_ ?_, ?_,
    ⟨.notPermitted, rfl, ?_, .inl ?_⟩, ?_⟩
  all_goals decide +kernel

end Program

end Symbolizer
