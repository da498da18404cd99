import RemoteDevice.CommandLine.Program
import Std.Time.DateTime.Timestamp

/-!
The program with the files, the clock and the terminal of the system.
-/
set_option autoImplicit false

namespace RemoteDevice.CommandLine

/-- What lies at a path. Whatever is there and cannot be read counts as a directory. -/
def observe (path : String) : IO FileTree := do
  let seen : Except FileError FileTree ←
    try
      let bytes ← IO.FS.readBinFile path
      pure (FileTree.writeFile ∅ path (.ofBytes bytes.toList))
    catch
      | .noFileOrDirectory .. => pure (.ok ∅)
      | _ => pure (FileTree.makeDirectory ∅ (FileTree.names path))
  return seen.toOption.getD ∅

/-- Replaces the file at a path in one step. -/
def replace (path content : String) : IO Unit := do
  IO.FS.createDirAll (FileTree.parent path)
  let draft := path ++ ".new"
  IO.FS.writeFile draft content
  IO.FS.rename draft path

/-- Asks the question, if there is one. -/
def Progress.attend : Progress → IO Outcome
  | finished o => return o
  | asks question resume => do
    let terminal ← IO.getStdout
    terminal.putStr question
    terminal.flush
    return resume (← (← IO.getStdin).getLine)

/-- Writes what has changed in the file. -/
def keep (path : String) (before after : FileTree) : IO Unit :=
  match (after.readText path).toOption with
  | some content =>
    if (before.readText path).toOption = some content then return else replace path content
  | none => return

/-- Runs the program here and now, and gives its exit code. -/
def perform (arguments : List String) : IO UInt32 := do
  let file := (Request.parse arguments).file?
  let files ← (file.map observe).getD (return ∅)
  let now ← Std.Time.Timestamp.now
  let outcome ←
    (run { files, now := now.toSecondsSinceUnixEpoch.val } arguments).attend
  if let some path := file then keep path files outcome.files
  IO.print outcome.output
  IO.eprint outcome.diagnostics
  return outcome.exitCode.toUInt32

end RemoteDevice.CommandLine

def main (arguments : List String) : IO UInt32 :=
  RemoteDevice.CommandLine.perform arguments
