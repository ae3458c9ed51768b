import Symbolizer.CommandLine.Scan
import Symbolizer.Program.Basic

set_option autoImplicit false

namespace Symbolizer

def systemReason : IO.Error → Text
  | .permissionDenied _ code details => reason code details
  | .inappropriateType _ code details => reason code details
  | .invalidArgument _ code details => reason code details
  | .resourceExhausted _ code details => reason code details
  | .otherError code details => reason code details
  | failure => (toString failure).toList
where
  reason (code : UInt32) (details : String) : Text :=
    details.toList ++ " (os error ".toList ++ decimal code.toNat ++ [')']

def isDirectoryCode : UInt32 := 21

def readStream (handle : IO.FS.Handle) : IO (FileKind × Stream) := do
  try
    let bytes ← handle.readBinToEnd
    return (.file, { bytes := bytes.toList })
  catch failure =>
    let kind :=
      match failure with
      | .inappropriateType _ code _ => if code = isDirectoryCode then .directory else .file
      | .otherError code _ => if code = isDirectoryCode then .directory else .file
      | _ => FileKind.file
    return (kind, { bytes := [], failure := some (systemReason failure) })

def lookAt (path : String) : IO FileSystem := do
  try
    let (kind, stream) ← readStream (← IO.FS.Handle.mk path .read)
    return ⟨fun _ => some kind, fun _ => .opened stream⟩
  catch
    | .noFileOrDirectory .. => return ⟨fun _ => none, fun _ => .absent⟩
    | failure => return ⟨fun _ => none, fun _ => .refused (systemReason failure)⟩

def writeTo (stream : IO.FS.Stream) (text : Text) : IO Unit := do
  stream.putStr (String.ofList text)
  stream.flush

end Symbolizer

open Symbolizer in
def main (words : List String) : IO UInt32 := do
  match Arguments.parse (words.map String.toList) with
  | .error .helpAsked =>
      writeTo (← IO.getStdout) UsageError.helpAsked.message
      return 0
  | .error usage =>
      writeTo (← IO.getStderr) usage.message
      return usage.status.toUInt32
  | .ok arguments =>
      let files ← lookAt (String.ofList arguments.source)
      let result := Program.run files { logs := Notice.errorLine "ERROR".toList } arguments
      writeTo (← IO.getStderr) result.diagnostics
      writeTo (← IO.getStdout) result.output
      return result.status.toUInt32
