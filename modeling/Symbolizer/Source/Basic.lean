import Symbolizer.Text.Basic
import Symbolizer.Text.Lossy

set_option autoImplicit false

namespace Symbolizer

structure Stream where
  bytes : List UInt8
  failure : Option Text := none
  deriving DecidableEq, Repr

namespace Stream

def ofText (text : Text) : Stream :=
  { bytes := Text.encode text }

def ofLines (lines : List Text) : Stream :=
  ofText (lines.flatMap fun line => line ++ ['\n'])

def lineEnd : UInt8 := 0x0a

def splitLine (bytes : List UInt8) : List UInt8 × Option (List UInt8) :=
  match bytes.dropWhile (· != lineEnd) with
  | [] => (bytes, none)
  | _ :: rest => (bytes.takeWhile (· != lineEnd), some rest)

theorem splitLine_rest_length (bytes line rest : List UInt8)
    (split : splitLine bytes = (line, some rest)) : rest.length < bytes.length := by
  have shorter := (List.dropWhile_sublist (l := bytes) (· != lineEnd)).length_le
  unfold splitLine at split
  split at split
  · simp at split
  · rename_i after found
    simp only [Prod.mk.injEq, Option.some.injEq] at split
    rw [found, split.2] at shorter
    exact shorter

inductive Reading where
  | line (text : Text) (rest : Stream)
  | finished
  | failed (reason : Text)

def readLine (stream : Stream) : Reading :=
  match splitLine stream.bytes with
  | (line, some rest) => .line (Text.decode line) { stream with bytes := rest }
  | (line, none) =>
      match stream.failure with
      | some reason => .failed reason
      | none =>
          if line.isEmpty then .finished else .line (Text.decode line) { stream with bytes := [] }

theorem readLine_shorter (stream rest : Stream) (text : Text)
    (read : stream.readLine = .line text rest) : rest.bytes.length < stream.bytes.length := by
  unfold readLine at read
  split at read
  · rename_i line after split
    obtain ⟨rfl, rfl⟩ : _ ∧ _ := by simpa using read
    exact splitLine_rest_length _ _ _ split
  · rename_i line split
    split at read
    · simp at read
    · split at read
      · simp at read
      · rename_i some_bytes
        obtain ⟨rfl, rfl⟩ : _ ∧ _ := by simpa using read
        have whole : line = stream.bytes := by
          unfold splitLine at split
          split at split <;> simp_all
        subst whole
        simpa [List.length_pos_iff] using some_bytes

def readAll (stream : Stream) : List Text × Option Text :=
  match _read : stream.readLine with
  | .line text rest =>
      let others := readAll rest
      (text :: others.1, others.2)
  | .finished => ([], none)
  | .failed reason => ([], some reason)
termination_by stream.bytes.length
decreasing_by exact readLine_shorter _ _ _ _read

def lines (stream : Stream) : List Text :=
  stream.readAll.1

end Stream

inductive LoadFailure where
  | absent (name : Text)
  | notOpened (name reason : Text)
  | notAllocated (what : Text)
  | notRead (reason : Text)
  deriving DecidableEq, Repr

namespace LoadFailure

def message : LoadFailure → Text
  | .absent name => "Symbol source ".toList ++ name ++ " is not present".toList
  | .notOpened name reason =>
      "Failed to open symbol source ".toList ++ name ++ ": ".toList ++ reason
  | .notAllocated what => "Cannot allocate ".toList ++ what
  | .notRead reason => "Failed to read symbol source: ".toList ++ reason

def causes (failure : LoadFailure) : List Text :=
  -- The message, and behind it the system's reason once more where there is one.
  match failure with
  | .absent _ | .notAllocated _ => [failure.message]
  | .notOpened _ reason | .notRead reason => [failure.message, reason]

def isAbsent : LoadFailure → Bool
  | .absent _ => true
  | _ => false

end LoadFailure

inductive Severity where
  | error
  | warning
  | info
  | debug
  deriving DecidableEq, Repr

structure Notice where
  severity : Severity
  text : Text
  deriving DecidableEq, Repr

abbrev Journal := List Notice

def Journal.withoutDebug (journal : Journal) : Journal :=
  journal.filter fun notice => notice.severity != .debug

inductive Opening where
  | absent
  | refused (reason : Text)
  | opened (stream : Stream)
  deriving DecidableEq, Repr

structure Source where
  name : Text
  opening : Opening
  deriving DecidableEq, Repr

namespace Source

def ofText (text : Text) : Source :=
  ⟨"<memory>".toList, .opened (.ofText text)⟩

def ofLines (lines : List Text) : Source :=
  ⟨"<memory>".toList, .opened (.ofLines lines)⟩

end Source

inductive FileKind where
  | file
  | directory
  deriving DecidableEq, Repr

structure FileSystem where
  kind? : Text → Option FileKind
  opening : Text → Opening

def Source.ofFile (files : FileSystem) (path : Text) : Source :=
  ⟨path, files.opening path⟩

end Symbolizer
