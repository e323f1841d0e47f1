import SceneBindings.Diagnostic
import SceneBindings.Files.Clock
import SceneBindings.Files.DiskPath
import SceneBindings.Table
import SceneBindings.Value.Yaml

/-!
The files that a run sees. A path is followed name by name, and only a directory leads on: a double
dot behind a directory that is not there leads nowhere, until this directory is made.
-/

namespace SceneBindings

inductive FileContent where
  | text (s : String)
  /-- What the library for documents writes for a value. -/
  | document (v : Value)
  /-- A file that is no text. -/
  | garbled
  | directory

/-- A text with each line break as a line feed, however it was written. -/
def unifyBreaks : List Char → List Char
  | '\r' :: '\n' :: r => '\n' :: unifyBreaks r
  | '\r' :: r => '\n' :: unifyBreaks r
  | c :: r => c :: unifyBreaks r
  | [] => []

namespace FileContent

def isDirectory : FileContent → Bool
  | directory => true
  | _ => false

variable [Yaml]

/-- A file as a reader of text sees it. -/
def chars : FileContent → List Char
  | text s => unifyBreaks s.toList
  | document v => unifyBreaks (Yaml.dump v)
  | _ => []

def lines (c : FileContent) : String := String.ofList c.chars

/-- The document of a file, if it holds one. -/
def document? : FileContent → Option Value
  | garbled => none
  | directory => none
  | c => Yaml.load c.chars

/-- Whether two files hold the same; documents do if they are written alike. -/
def same : FileContent → FileContent → Bool
  | text a, text b => a == b
  | document a, document b => Yaml.dump a == Yaml.dump b
  | garbled, garbled => true
  | directory, directory => true
  | _, _ => false

end FileContent

/-- A place on the disk: the names that lead to it from the root, none of them a double dot. -/
abbrev Place := List String

/-- Where a name leads from a directory. The root is above itself. -/
def Place.step (here : Place) (name : String) : Place :=
  if name = ".." then here.dropLast else here ++ [name]

structure Files where
  /-- The directory from which relative paths are followed. -/
  current : Place
  entries : Table Place FileContent

namespace Files

def at? (fs : Files) (x : Place) : Option FileContent := fs.entries.get? x

def put (fs : Files) (x : Place) (c : FileContent) : Files :=
  { fs with entries := fs.entries.put x c }

/-- A directory and those above it, with nothing in them. -/
def bare (current : Place) : Files :=
  (List.range (current.length + 1)).foldl (fun fs n => fs.put (current.take n) .directory)
    ⟨current, .empty⟩

def start (fs : Files) (p : DiskPath) : Place :=
  match p.root with
  | .relative => fs.current
  | _ => []

/-- Follows names from a place. -/
def follow (fs : Files) (here : Place) : List String → Except OpenFault Place
  | [] => .ok here
  | n :: ns =>
    match fs.at? here with
    | some .directory => follow fs (here.step n) ns
    | some _ => .error .notDirectory
    | none => .error .missing

/-- The place that a path leads to. -/
def place (fs : Files) (p : DiskPath) : Except OpenFault Place := fs.follow (fs.start p) p.names

def get? (fs : Files) (p : DiskPath) : Option FileContent :=
  match fs.place p with
  | .ok x => fs.at? x
  | .error _ => none

def exists? (fs : Files) (p : DiskPath) : Bool := (fs.get? p).isSome

def erase (fs : Files) (p : DiskPath) : Files :=
  match fs.place p with
  | .ok x => { fs with entries := fs.entries.erase x }
  | .error _ => fs

/-- Makes a directory in one that is there. -/
def makeOne (fs : Files) (p : DiskPath) : Files × Except Failure Unit :=
  match fs.place p with
  | .error e => (fs, .error (.openFile e))
  | .ok x =>
    match fs.at? x with
    | none => (fs.put x .directory, .ok ())
    | some .directory => (fs, .ok ())
    | some _ => (fs, .error .fileInTheWay)

/-- Makes the directory of some names, given the last one first, and those above it if they are
missing. What was made stays if another one cannot be made. -/
def makeEach (fs : Files) (root : DiskPath.Root) : List String → Files × Except Failure Unit
  | [] => fs.makeOne ⟨root, []⟩
  | n :: ns =>
    match fs.makeOne ⟨root, (n :: ns).reverse⟩ with
    | (_, .error (.openFile .missing)) =>
      match makeEach fs root ns with
      | (fs, .ok ()) => fs.makeOne ⟨root, (n :: ns).reverse⟩
      | r => r
    | r => r

/-- Makes a directory and those above it. -/
def makeDirectory (fs : Files) (p : DiskPath) : Files × Except Failure Unit :=
  fs.makeEach p.root p.names.reverse

/-- Writes a file in a directory that is there. -/
def write (fs : Files) (p : DiskPath) (c : FileContent) : Except Failure Files :=
  match fs.place p with
  | .error e => .error (.openFile e)
  | .ok x =>
    match fs.at? x with
    | some .directory => .error (.openFile .isDirectory)
    | _ => .ok (fs.put x c)

def read (fs : Files) (p : DiskPath) : Except OpenFault FileContent :=
  match fs.place p with
  | .error e => .error e
  | .ok x =>
    match fs.at? x with
    | none => .error .missing
    | some .directory => .error .isDirectory
    | some c => .ok c

variable [Yaml]

/-- Whether a place holds the same in two states. -/
def agreeAt (old new : Files) (x : Place) : Bool :=
  match old.at? x, new.at? x with
  | some a, some b => a.same b
  | none, none => true
  | _, _ => false

/-- The files that differ between two states, with what they are in the second. Directories do not
count. -/
def changed (old new : Files) : List (Place × Option FileContent) :=
  let places := (old.entries.keys ++ new.entries.keys).eraseDups
  let differing := places.filter fun x =>
    !old.agreeAt new x && !((new.at? x <|> old.at? x).any FileContent.isDirectory)
  differing.map fun x => (x, new.at? x)

end Files

end SceneBindings
