import EstimateCompiler.Command.Run

/-!
# The command on a system

The command reads and writes the files of the system; everything else is decided by the functions of
the command. A failure that is not caught is printed on standard error.
-/
namespace EstimateCompiler.Command

/-- The error of a file that the system reports. Its code may be negative. -/
def fileError : IO.Error → FileError
  | .permissionDenied .. => .denied
  | .inappropriateType _ code _ => if code = 21 ∨ -code = 21 then .isDirectory else .notDirectory
  | .invalidArgument _ code _ => if code = 36 ∨ -code = 36 then .nameTooLong else .notFound
  | _ => .notFound

partial def readAll (stream : IO.FS.Stream) (bytes : ByteArray) : IO ByteArray := do
  let chunk ← stream.read 65536
  if chunk.isEmpty then return bytes else readAll stream (bytes ++ chunk)

def readSystem (request : Request) : IO (Except Stop (List UInt8)) := do
  match request.input with
  | some name =>
      if name = "-" then return .ok (← readAll (← IO.getStdin) .empty).toList
      try return .ok (← IO.FS.readBinFile name.toString).toList
      catch e => return .error (.misused (.inputUnreadable name (fileError e)))
  | none => return .error (.misused .inputMissing)

/-- A system without files, for the ends of a run that do not look at them. -/
def noFiles : Files := ⟨.empty, [], [], []⟩

def finishSystem (platform : Platform) : Report → IO Outcome
  | .writes notes path code => do
      try
        IO.FS.writeBinFile path.toString .empty
        match Text.Utf8.encode code with
        | .error e =>
            return ⟨1, "", platform.noteLines notes, noFiles, some (.encoding e.message)⟩
        | .ok bytes =>
            IO.FS.writeBinFile path.toString ⟨bytes.toArray⟩
            return ⟨0, "", platform.noteLines (notes ++ writtenLines path code), noFiles, none⟩
      catch e =>
        return ⟨1, "", platform.noteLines notes, noFiles, some (.file path (fileError e))⟩
  | report => return report.finish platform noFiles

def runSystem (platform : Platform) (arguments : List Text) : IO Outcome := do
  match Request.ofArguments arguments with
  | .error stop => finishSystem platform stop.report
  | .ok request =>
      match ← readSystem request, request.checkExtra with
      | .error stop, _ | _, .error stop => finishSystem platform stop.report
      | .ok bytes, .ok _ => finishSystem platform (request.report bytes)

end EstimateCompiler.Command

def main (arguments : List String) : IO UInt32 := do
  let platform := EstimateCompiler.Command.Platform.utf8 (← (← IO.getStdout).isTty)
    (← (← IO.getStderr).isTty)
  let outcome ← EstimateCompiler.Command.runSystem platform (arguments.map .ofString)
  IO.print outcome.stdout.toString
  IO.eprint outcome.stderr.toString
  if let some escape := outcome.escape then IO.eprintln escape.message.toString
  return outcome.exitCode.toUInt32
