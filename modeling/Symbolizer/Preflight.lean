import Symbolizer.Source.Basic

set_option autoImplicit false

namespace Symbolizer

structure Host where
  isRoot : Bool := false
  kptrRestrict : Option Nat := none
  -- What the logger writes for a notice.
  logs : Notice → Text := fun _ => []

def Host.logged (host : Host) (journal : Journal) : Text :=
  journal.flatMap host.logs

def Notice.errorLine (stamp : Text) (notice : Notice) : Text :=
  if notice.severity = .error then '[' :: stamp ++ "] ".toList ++ notice.text ++ ['\n'] else []

namespace Preflight

def hiddenAddressReason (host : Host) : Option Text :=
  match host.kptrRestrict with
  | some 2 =>
      some ("kernel.kptr_restrict=2: all symbol addresses read as zero, ".toList ++
        "lookups will not resolve".toList)
  | some 1 =>
      if host.isRoot then none
      else some <|
        "kernel.kptr_restrict=1 and not running as root: symbol addresses read as zero.".toList ++
          "\n\nRun with: sudo ksym ...".toList
  | _ => none

inductive Outcome where
  | passed (journal : Journal)
  | isDirectory
  deriving DecidableEq, Repr

def isDirectoryMessage (path : Text) : Text :=
  "Not a file: ".toList ++ path ++
    "\n\n--source must point to a kallsyms-format file, not a directory.".toList

def missingNotice (path : Text) : Notice :=
  ⟨.warning, path ++ " not found, module symbols will be unavailable".toList⟩

def check (files : FileSystem) (host : Host) (path : Text) (quiet : Bool) : Outcome :=
  match files.kind? path with
  | some .directory => .isDirectory
  | some .file =>
      if quiet then .passed []
      else .passed ((hiddenAddressReason host).toList.map fun reason => ⟨.warning, reason⟩)
  | none => if quiet then .passed [] else .passed [missingNotice path]

end Preflight

end Symbolizer
