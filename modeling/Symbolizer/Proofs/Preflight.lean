import Symbolizer.Files.Change
import Symbolizer.Preflight
import Symbolizer.Proofs.Store.Published

set_option autoImplicit false

namespace Symbolizer

namespace FileTree

variable (tree : FileTree) (path : Text)

theorem opening_of_error {failure : PathFailure} (failed : tree.resolve path = .error failure) :
    tree.opening path =
      if failure = .notFound then .absent else .refused failure.reason := by
  unfold opening
  cases failure <;> simp [failed]

theorem kind?_eq_none_iff :
    tree.kind? path = none ↔ ∃ failure, tree.resolve path = .error failure := by
  unfold kind?
  cases resolved : tree.resolve path with
  | error failure => simp
  | ok node =>
      obtain ⟨location, content, refusal⟩ := node
      cases content <;> simp

theorem opening_eq_absent_iff :
    tree.opening path = .absent ↔ tree.resolve path = .error .notFound := by
  cases resolved : tree.resolve path with
  | error failure =>
      rw [tree.opening_of_error path resolved]
      cases failure <;> simp
  | ok node =>
      obtain ⟨location, content, refusal⟩ := node
      cases content <;> cases refusal <;> simp [opening, resolved]

theorem opening_of_file (file : tree.kind? path = some .file) :
    (∃ bytes, tree.opening path = .opened { bytes }) ∨
      (∃ refusal : Refusal, tree.opening path = .refused refusal.reason) ∨
      ∃ bytes, ∃ refusal : Refusal, tree.opening path = .opened ⟨bytes, some refusal.reason⟩ := by
  unfold kind? at file
  cases resolved : tree.resolve path with
  | error failure => simp [resolved] at file
  | ok node =>
      obtain ⟨location, content, refusal⟩ := node
      cases content with
      | directory => simp [resolved] at file
      | file bytes breaks =>
          cases refusal with
          | some refusal => exact .inr (.inl ⟨refusal, by simp [opening, resolved]⟩)
          | none =>
              cases breaks with
              | none => exact .inl ⟨bytes, by simp [opening, resolved]⟩
              | some breaks => exact .inr (.inr ⟨bytes, breaks, by simp [opening, resolved]⟩)

end FileTree

namespace Preflight

/-- The check lets the path pass, with the warning that nothing is there. -/
def ReportsMissing (files : FileSystem) (host : Host) (path : Text) : Prop :=
  check files host path false = .passed [missingNotice path]

instance (files : FileSystem) (host : Host) (path : Text) :
    Decidable (ReportsMissing files host path) :=
  inferInstanceAs (Decidable (check files host path false = .passed [missingNotice path]))

theorem hiddenAddressReason_ne_missing (host : Host) (path : Text) :
    hiddenAddressReason host ≠
      some (path ++ " not found, module symbols will be unavailable".toList) := by
  have ends (reason : Text)
      (apart : ¬" not found, module symbols will be unavailable".toList <:+ reason) :
      some reason ≠ some (path ++ " not found, module symbols will be unavailable".toList) := by
    intro same
    exact apart ⟨path, (Option.some.inj same).symm⟩
  -- Both reasons end in other words than the notice does, whatever the path.
  unfold hiddenAddressReason
  split
  next => exact ends _ (by decide)
  next =>
    split
    next => simp
    next => exact ends _ (by decide)
  next => simp

variable (files : FileSystem) (host : Host) (path : Text)

theorem reportsMissing_iff : ReportsMissing files host path ↔ files.kind? path = none := by
  unfold ReportsMissing check
  cases files.kind? path with
  | none => simp
  | some kind =>
      cases kind with
      | directory => simp
      | file =>
          have hidden := hiddenAddressReason_ne_missing host path
          cases reason : hiddenAddressReason host <;> simp_all [missingNotice]

theorem check_eq_isDirectory_iff (quiet : Bool) :
    check files host path quiet = .isDirectory ↔ files.kind? path = some .directory := by
  unfold check
  split
  next directory => simp [directory]
  next file => split <;> simp [file]
  next missing => split <;> simp [missing]

theorem exists_check_passed (quiet : Bool) (other : files.kind? path ≠ some .directory) :
    ∃ notices, check files host path quiet = .passed notices ∧
      ∀ notice ∈ notices, notice.severity = .warning := by
  unfold check
  split
  next directory => contradiction
  next =>
    split
    next => exact ⟨_, rfl, by simp⟩
    next => exact ⟨_, rfl, by simp⟩
  next =>
    split
    next => exact ⟨_, rfl, by simp⟩
    next => exact ⟨_, rfl, by simp [missingNotice]⟩

theorem check_quiet (other : files.kind? path ≠ some .directory) :
    check files host path true = .passed [] := by
  unfold check
  split
  next directory => contradiction
  next => rfl
  next => rfl

end Preflight

theorem Store.build_of_unresolved (store : Store) (tree : FileTree) (path : Text)
    (failure : PathFailure) (failed : tree.resolve path = .error failure) :
    (store.build (.ofFile tree.fileSystem path)).result =
      if failure = .notFound then .ok .sourceAbsent
      else .error (.notOpened path failure.reason) := by
  have opening : (Source.ofFile tree.fileSystem path).opening = _ :=
    tree.opening_of_error path failed
  rw [Store.build_result, opening]
  by_cases missing : failure = .notFound <;> simp [missing, Source.ofFile]

namespace Preflight

theorem reportsMissing_iff_absent (tree : FileTree) (host : Host) (path : Text) (store : Store) :
    (tree.opening path = .absent → ReportsMissing tree.fileSystem host path) ∧
    (ReportsMissing tree.fileSystem host path →
      check tree.fileSystem host path true = .passed [] ∧
      ∃ failure, tree.resolve path = .error failure ∧
        (store.build (.ofFile tree.fileSystem path)).result =
          if failure = .notFound then .ok .sourceAbsent
          else .error (.notOpened path failure.reason)) ∧
    ((ReportsMissing tree.fileSystem host path ↔ tree.opening path = .absent) ↔
      ∀ failure, tree.resolve path = .error failure → failure = .notFound) := by
  have reported : ReportsMissing tree.fileSystem host path ↔
      ∃ failure, tree.resolve path = .error failure :=
    (reportsMissing_iff _ _ _).trans (tree.kind?_eq_none_iff path)
  rw [tree.opening_eq_absent_iff]
  refine ⟨fun absent => reported.2 ⟨_, absent⟩, ?_, ?_⟩
  · intro missing
    obtain ⟨failure, failed⟩ := reported.1 missing
    have nothing := (reportsMissing_iff _ _ _).1 missing
    exact ⟨check_quiet _ _ _ (by simp [nothing]), failure, failed,
      store.build_of_unresolved tree path failure failed⟩
  · rw [reported]
    constructor
    · intro agree failure failed
      have absent := agree.1 ⟨failure, failed⟩
      simpa [failed] using absent
    · intro only
      constructor
      · rintro ⟨failure, failed⟩
        obtain rfl := only failure failed
        exact failed
      · exact fun absent => ⟨_, absent⟩

def smallTree : FileTree :=
  FileTree.writeFile {} "f".toList []

theorem reportsMissing_of_removed :
    let tree := smallTree.remove "f".toList
    tree.opening "f".toList = .absent ∧ ReportsMissing tree.fileSystem {} "f".toList ∧
      (Store.build { options := {} } (.ofFile tree.fileSystem "f".toList)).result =
        .ok .sourceAbsent := by
  intro tree
  obtain ⟨reports, builds, _⟩ := reportsMissing_iff_absent tree {} "f".toList { options := {} }
  have absent : tree.opening "f".toList = .absent := by decide
  obtain ⟨_, failure, failed, result⟩ := builds (reports absent)
  have nothing : tree.resolve "f".toList = .error .notFound := by decide
  obtain rfl := Except.error.inj (nothing.symm.trans failed)
  exact ⟨absent, reports absent, result⟩

theorem reportsMissing_of_path_through_file :
    ReportsMissing smallTree.fileSystem {} "f/x".toList ∧
      smallTree.opening "f/x".toList ≠ .absent ∧
      (Store.build { options := {} } (.ofFile smallTree.fileSystem "f/x".toList)).result =
        .error (.notOpened "f/x".toList "Not a directory (os error 20)".toList) := by
  decide

end Preflight

end Symbolizer
