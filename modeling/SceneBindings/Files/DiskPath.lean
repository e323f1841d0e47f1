import SceneBindings.Failure
import SceneBindings.Text.Blank

/-!
Paths of files. A path is a root, possibly none, and names; empty names and single dots are dropped
when a path is read, double dots stay until the path is normalized.
-/

namespace SceneBindings

inductive DiskPath.Root where
  | relative
  | single
  /-- Two slashes, which are not the same as one. -/
  | double
  deriving DecidableEq, Repr

structure DiskPath where
  root : DiskPath.Root
  names : List String
  deriving DecidableEq, Repr

namespace DiskPath

def rootOf : List Char → Root
  | '/' :: '/' :: '/' :: _ => .single
  | '/' :: '/' :: _ => .double
  | '/' :: _ => .single
  | _ => .relative

def ofString (s : String) : DiskPath :=
  ⟨rootOf s.toList,
    ((Text.splitAt '/' s.toList).map String.ofList).filter fun n => !n.isEmpty && n != "."⟩

def Root.text : Root → String
  | relative => ""
  | single => "/"
  | double => "//"

def text (p : DiskPath) : String :=
  if p.root = .relative ∧ p.names = [] then "." else p.root.text ++ "/".intercalate p.names

/-- The second path seen from the first; an absolute path stands for itself. -/
def join (p q : DiskPath) : DiskPath :=
  if q.root = .relative then ⟨p.root, p.names ++ q.names⟩ else q

def child (p : DiskPath) (s : String) : DiskPath := p.join (ofString s)

def parent (p : DiskPath) : DiskPath := { p with names := p.names.dropLast }

def name (p : DiskPath) : String := p.names.getLast?.getD ""

/-- The position of the last dot, unless it is the first or last character. -/
def dot? (s : List Char) : Option Nat :=
  match s.reverse.findIdx? (· == '.') with
  | some j =>
    let i := s.length - 1 - j
    if 0 < i ∧ i + 1 < s.length then some i else none
  | none => none

def stem (p : DiskPath) : String :=
  match dot? p.name.toList with
  | some i => String.ofList (p.name.toList.take i)
  | none => p.name

def suffix (p : DiskPath) : String :=
  match dot? p.name.toList with
  | some i => String.ofList (p.name.toList.drop i)
  | none => ""

def withName (p : DiskPath) (s : String) : Except Failure DiskPath :=
  if p.names = [] then .error (.value (.namelessPath p.text))
  else .ok { p with names := p.names.dropLast ++ [s] }

/-- Takes each double dot together with the name before it. At an absolute root there is nothing to
take. -/
def collapse (absolute : Bool) (done : List String) : List String → List String
  | [] => done.reverse
  | n :: ns =>
    if n = ".." then
      match done with
      | d :: ds => if d = ".." then collapse absolute (n :: done) ns else collapse absolute ds ns
      | [] => if absolute then collapse absolute [] ns else collapse absolute [n] ns
    else collapse absolute (n :: done) ns

def normalize (p : DiskPath) : DiskPath :=
  { p with names := collapse (p.root ≠ .relative) [] p.names }

/-- The names without those that two lists begin with alike. -/
def dropCommon : List String → List String → List String × List String
  | a :: as, b :: bs => if a = b then dropCommon as bs else (a :: as, b :: bs)
  | as, bs => (as, bs)

/-- The way from one absolute directory to a path. -/
def relativeTo (p start : DiskPath) : DiskPath :=
  let (up, down) := dropCommon start.normalize.names p.normalize.names
  ⟨.relative, up.map (fun _ => "..") ++ down⟩

end DiskPath

end SceneBindings
