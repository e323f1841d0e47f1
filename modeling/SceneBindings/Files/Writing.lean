import SceneBindings.Files.Store
import SceneBindings.Text.Case

/-!
Writing units. A file that is there is only replaced after a decision, and may be kept beside the
new one under a name that tells the time.
-/

namespace SceneBindings

inductive WriteDecision where
  | backup
  | overwrite
  | cancel
  deriving DecidableEq, Repr

def WriteDecision.ofLabel? (s : String) : Option WriteDecision :=
  if s = "backup" then some backup
  else if s = "overwrite" then some overwrite
  else if s = "cancel" then some cancel
  else none

/-- Who decides about a file that is there. -/
inductive Decider where
  | always (d : WriteDecision)
  /-- Whoever answers questions. -/
  | ask
  deriving DecidableEq, Repr

/-- `UI_Library_Main.py` becomes `UI_Library_Main_20240101120000.bak.py`. -/
def DiskPath.backup (p : DiskPath) (now : Timestamp) : Except Failure DiskPath :=
  p.withName (p.stem ++ "_" ++ now.compact ++ ".bak" ++ p.suffix)

/-- What writing works on: the files, the answers still to be given, the time, and what was said. -/
structure Desk where
  files : Files
  answers : List String
  now : Timestamp
  events : List Event

namespace Desk

def say (d : Desk) (e : Event) : Desk := { d with events := d.events ++ [e] }

def print (d : Desk) (text : String) : Desk := d.say (.line text)

def reportAll (d : Desk) (ds : List Diagnostic) : Desk := ds.foldl (fun d x => d.say (.found x)) d

/-- An answer that begins with `b` or `o` allows writing; any other forbids it. -/
def readAnswer (s : String) : WriteDecision :=
  match Text.lower (Text.trim s.toList) with
  | 'b' :: _ => .backup
  | 'o' :: _ => .overwrite
  | _ => .cancel

def decide (d : Desk) (path : DiskPath) : Decider → Desk × Except Failure WriteDecision
  | .always decision => (d, .ok decision)
  | .ask =>
    let d := d.say (.ask (path.text ++
      " already exists. [b]ackup and overwrite / [o]verwrite / [c]ancel? "))
    match d.answers with
    | [] => (d, .error .noAnswer)
    | a :: answers => ({ d with answers }, .ok (readAnswer a))

/-- Writes a file in a directory that is made if it is not there. -/
def store (d : Desk) (path : DiskPath) (c : FileContent) : Desk × Except Failure Unit :=
  match d.files.makeDirectory path.parent with
  | (files, .error e) => ({ d with files }, .error e)
  | (files, .ok ()) =>
    match files.write path c with
    | .error e => ({ d with files }, .error e)
    | .ok files => ({ d with files }, .ok ())

/-- Copies a file to its backup path. -/
def backUp (d : Desk) (path : DiskPath) : Desk × Except Failure Unit :=
  match path.backup d.now with
  | .error e => (d, .error e)
  | .ok target =>
    match d.files.read path with
    | .error e => (d, .error (.openFile e))
    | .ok c =>
      match d.files.write target c with
      | .error e => (d, .error e)
      | .ok files => ((Desk.print { d with files } ("💾 Backup created: " ++ target.name)), .ok ())

/-- Writes a unit and says so. -/
def finish (d : Desk) (path : DiskPath) (content : String) :
    Desk × Except Failure (Option DiskPath) :=
  match d.store path (.text content) with
  | (d, .error e) => (d, .error e)
  | (d, .ok ()) => (d.print ("✅ Generated " ++ path.text), .ok (some path))

/-- Writes a unit unless it is decided otherwise; the result is the path if it was written. A file
that is there needs a decider. -/
def writeUnit (d : Desk) (path : DiskPath) (content : String) (decider : Option Decider) :
    Desk × Except Failure (Option DiskPath) :=
  if !d.files.exists? path then d.finish path content
  else
    match decider with
    | none => (d, .error (.conflict path.text))
    | some decider =>
      match d.decide path decider with
      | (d, .error e) => (d, .error e)
      | (d, .ok .cancel) => (d.print ("⏭️  Skipped " ++ path.name), .ok none)
      | (d, .ok .overwrite) => d.finish path content
      | (d, .ok .backup) =>
        match d.backUp path with
        | (d, .error e) => (d, .error e)
        | (d, .ok ()) => d.finish path content

end Desk

end SceneBindings
