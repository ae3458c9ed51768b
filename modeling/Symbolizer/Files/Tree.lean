import Symbolizer.Source.Basic

set_option autoImplicit false

namespace Symbolizer

/-- What the system answers where a file is there and it does not let it be opened or read. -/
inductive Refusal where
  | notPermitted
  | inputOutput
  | noSuchDevice
  | unavailable
  | outOfMemory
  | permissionDenied
  | busy
  | invalidArgument
  | tooManyFiles
  | tooManyLinks
  | timedOut
  | staleHandle
  deriving DecidableEq, Repr

def Refusal.reason : Refusal → Text
  | .notPermitted => "Operation not permitted (os error 1)".toList
  | .inputOutput => "Input/output error (os error 5)".toList
  | .noSuchDevice => "No such device or address (os error 6)".toList
  | .unavailable => "Resource temporarily unavailable (os error 11)".toList
  | .outOfMemory => "Cannot allocate memory (os error 12)".toList
  | .permissionDenied => "Permission denied (os error 13)".toList
  | .busy => "Device or resource busy (os error 16)".toList
  | .invalidArgument => "Invalid argument (os error 22)".toList
  | .tooManyFiles => "Too many open files (os error 24)".toList
  | .tooManyLinks => "Too many levels of symbolic links (os error 40)".toList
  | .timedOut => "Connection timed out (os error 110)".toList
  | .staleHandle => "Stale file handle (os error 116)".toList

inductive PathFailure where
  | notFound
  | notADirectory
  | nameTooLong
  | nulByte
  | refused (refusal : Refusal)
  deriving DecidableEq, Repr

def PathFailure.reason : PathFailure → Text
  | .notFound => "No such file or directory (os error 2)".toList
  | .notADirectory => "Not a directory (os error 20)".toList
  | .nameTooLong => "File name too long (os error 36)".toList
  | .nulByte => "file name contained an unexpected NUL byte".toList
  | .refused refusal => refusal.reason

def isADirectory : Text :=
  "Is a directory (os error 21)".toList

namespace FileTree

/-- The components of an absolute path, the innermost first. -/
abbrev Location := List Text

inductive Content where
  | file (bytes : List UInt8) (breaks : Option Refusal := none)
  | directory
  deriving DecidableEq, Repr

/-- A file with a refusal cannot be opened; below a directory with one nothing can be reached. -/
structure Node where
  location : Location
  content : Content
  refusal : Option Refusal := none
  deriving DecidableEq, Repr

def home : Location := ["home".toList]

end FileTree

structure FileTree where
  nodes : List FileTree.Node := []
  working : FileTree.Location := FileTree.home
  deriving DecidableEq, Repr

namespace FileTree

def node? (tree : FileTree) (location : Location) : Option Node :=
  if location.isSuffixOf tree.working then some ⟨location, .directory, none⟩
  else tree.nodes.find? fun node => node.location == location

def componentLimit : Nat := 255

def pathLimit : Nat := 4095

def parent : Text := ['.', '.']

def here : Text := ['.']

def child (tree : FileTree) (name : Text) (location : Location) : Except PathFailure Location :=
  if name = parent then .ok location.tail
  else if (tree.node? (name :: location)).isSome then .ok (name :: location)
  else .error .notFound

def enter (tree : FileTree) (location : Location) (component : Text) :
    Except PathFailure Location :=
  match tree.node? location with
  | none => .error .notFound
  | some ⟨_, .file _ _, _⟩ => .error .notADirectory
  | some ⟨_, .directory, refusal⟩ =>
      -- An empty component, as behind a trailing slash, asks only for a directory.
      if component.isEmpty then .ok location
      else
        match refusal with
        | some refusal => .error (.refused refusal)
        | none =>
            if componentLimit < Text.byteLength component then .error .nameTooLong
            else if component = here then .ok location
            else tree.child component location

def fault? (path : Text) : Option PathFailure :=
  if path.contains '\x00' then some .nulByte
  else if pathLimit < Text.byteLength path then some .nameTooLong
  else if path.isEmpty then some .notFound
  else none

def start (tree : FileTree) (path : Text) : Location :=
  if path.head? = some '/' then [] else tree.working

def reach (tree : FileTree) (path : Text) : Except PathFailure Location :=
  match fault? path with
  | some failure => .error failure
  | none => (path.splitOn '/').foldlM tree.enter (tree.start path)

def resolve (tree : FileTree) (path : Text) : Except PathFailure Node :=
  match tree.reach path with
  | .error failure => .error failure
  | .ok location =>
      match tree.node? location with
      | some node => .ok node
      | none => .error .notFound

def kind? (tree : FileTree) (path : Text) : Option FileKind :=
  match tree.resolve path with
  | .ok ⟨_, .file _ _, _⟩ => some .file
  | .ok ⟨_, .directory, _⟩ => some .directory
  | .error _ => none

def opening (tree : FileTree) (path : Text) : Opening :=
  match tree.resolve path with
  | .error .notFound => .absent
  | .error failure => .refused failure.reason
  | .ok ⟨_, _, some refusal⟩ => .refused refusal.reason
  | .ok ⟨_, .file bytes breaks, none⟩ => .opened { bytes, failure := breaks.map Refusal.reason }
  -- A directory can be opened, but the first read of it fails.
  | .ok ⟨_, .directory, none⟩ => .opened { bytes := [], failure := some isADirectory }

def fileSystem (tree : FileTree) : FileSystem :=
  ⟨tree.kind?, tree.opening⟩

end FileTree

end Symbolizer
