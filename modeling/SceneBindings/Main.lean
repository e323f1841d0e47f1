import SceneBindings.Cli.Commands
import SceneBindings.Validation.Lax
import SceneBindings.Value.Flow
import Std.Time.Zoned

/-!
The program. It takes up the files below the working directory, runs one command line on them, and
puts back the files that the run changed. Documents are stored as JSON.
-/

namespace SceneBindings.Program

/-- A file that cannot be read as text holds nothing of use. -/
def contentAt (path : String) (isDirectory : Bool) : IO FileContent := do
  if isDirectory then return .directory
  try return .text (← IO.FS.readFile path)
  catch _ => return .garbled

def takeFiles (base : DiskPath) : IO Files := do
  let mut files := Files.bare base.names
  for p in ← (← IO.currentDir).walkDir do
    files := files.put (DiskPath.ofString p.toString).names (← contentAt p.toString (← p.isDir))
  return files

def putFile (path : DiskPath) (content : String) : IO Unit := do
  IO.FS.createDirAll path.parent.text
  IO.FS.writeFile path.text content

def putBack (old new : Files) : IO Unit := do
  for (place, content) in old.changed new do
    match content with
    | some (.text s) => putFile ⟨.single, place⟩ s
    | some (.document v) => putFile ⟨.single, place⟩ (String.ofList (Yaml.dump v) ++ "\n")
    | _ => pure ()

def now : IO Timestamp := do
  let t ← Std.Time.PlainDateTime.now
  return ⟨t.year.toInt.toNat, t.month.val.toNat, t.day.val.toNat, t.hour.val.toNat,
    t.minute.val.toNat, t.second.val.toNat⟩

def usage : String := "usage: [-h] [--config CONFIG] [--quiet] COMMAND ...\ncommands: " ++
  ", ".intercalate Cli.commands

/-- Whether a run stopped at a question that no answer was left for. -/
def isAsking (done : Cli.Finished) : Bool :=
  match done.exit with
  | .error .noAnswer => true
  | _ => false

/-- Runs a command line, and runs it again with one more answer for each question that it stops
at. What was shown before is not shown again. -/
partial def converse (run : List String → Except Cli.Stop Cli.Finished) (answers : List String)
    (shown : Nat) : IO (Except Cli.Stop Cli.Finished) := do
  match run answers with
  | .error stop => return .error stop
  | .ok done =>
    IO.print (String.ofList (done.progress.toList.drop shown))
    let line ← if isAsking done then (← IO.getStdin).getLine else pure ""
    if line.isEmpty then return .ok done
    converse run (answers ++ [line]) done.progress.length

def conclude (files : Files) (done : Cli.Finished) : IO UInt32 := do
  putBack files done.files
  IO.print done.closing
  IO.eprint done.errors
  match done.exit with
  | .ok code => return code.toUInt32
  | .error e =>
    IO.eprintln (e.message?.getD "The command could not be carried out")
    return 1

end SceneBindings.Program

open SceneBindings Program in
def main (args : List String) : IO UInt32 := do
  let base := DiskPath.ofString (← IO.currentDir).toString
  let files ← takeFiles base
  let time ← now
  match ← converse (fun answers => Cli.run base files time answers args) [] 0 with
  | .ok done => conclude files done
  | .error stop =>
    IO.eprintln usage
    return stop.exitCode.toUInt32
