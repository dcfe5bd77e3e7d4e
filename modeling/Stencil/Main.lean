import Std.Time.DateTime.Timestamp
import Stencil.CommandLine.Run

/-!
# The program

The command line with the files, the clock and the randomness of the machine it runs on.
-/

namespace Stencil

/-- Why the machine could not read a file. -/
def FileError.ofError : IO.Error → FileError
  | .noFileOrDirectory .. => .missing
  | .permissionDenied .. => .forbidden
  | .inappropriateType _ 20 _ => .notDirectory
  | .inappropriateType _ 21 _ => .isDirectory
  | .userError _ => .notText
  | e => .other (toString e)

/-- The entries of the directory at a path. -/
def directoryEntries (path : String) : IO (List FileEntry) := do
  let found ← (IO.FS.DirEntry.mk path "").path.readDir
  found.toList.mapM fun entry => do return ⟨entry.fileName, ← entry.path.isDir⟩

/-- The content of the file at a path. -/
def fileContent (path : String) : IO (Except FileError String) := do
  try return .ok (← IO.FS.readFile path)
  catch e => return .error (.ofError e)

/-- Whether there is a file at a path that can be opened, and not a directory. -/
def isReadable (path : String) : IO Bool := do
  match ← fileContent path with
  | .ok _ => return true
  | .error e => return e = .notText

/-- The calls of the machine's files. -/
def machineFiles : Files IO where
  read := fileContent
  isFile := isReadable
  entries path := do
    try directoryEntries path
    catch _ => return []

/-- The day that the clock shows. -/
def clockDay : IO Calendar.Date := do
  let now ← Std.Time.Timestamp.now
  let days := now.toSecondsSinceUnixEpoch.val / 86400
  return (Calendar.Date.epoch.addDays? days).getD .epoch

/-- The machine as a place to run commands. -/
def machine : IO (Host IO) := do
  let bytes ← IO.getRandomBytes 8
  return ⟨machineFiles, ← clockDay, bytes.toList.foldl (fun n byte => 256 * n + byte.toNat) 0⟩

end Stencil

/-- Carries out what the arguments ask for. -/
def main (args : List String) : IO UInt32 := do
  let done ← Stencil.CommandLine.run (← Stencil.machine) args
  (← IO.getStdout).putStr done.output
  (← IO.getStderr).putStr done.messages
  return done.status.toUInt32
