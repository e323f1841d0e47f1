import SceneBindings.Component.Basic
import SceneBindings.Text.Blank
import SceneBindings.Text.Quoted

/-!
The forest of nodes. All nodes of a run stand in one table in the order of creation, attached or
not; a scene is a name and a list of roots. Each edit that a scene announces is kept in the list of
changes, so that whoever follows a scene can catch up later.
-/

namespace SceneBindings

abbrev SceneId := Nat

structure Node where
  name : String
  parent : Option Key
  children : List Key
  components : List Component
  active : Bool
  destroyed : Bool
  scene : Option SceneId

def Node.new (name : String) (components : List Component) (active : Bool) : Node :=
  ⟨name, none, [], components, active, false, none⟩

structure Scene where
  name : String
  roots : List Key

/-- An announced edit: the node, and the nodes that were below it when it was announced. -/
structure Change where
  scene : SceneId
  node : Key
  affected : List Key
  deriving DecidableEq, Repr

structure Forest where
  nodes : List Node
  scenes : List Scene
  /-- The latest change first. -/
  changes : List Change

namespace Forest

def empty : Forest := ⟨[], [], []⟩

def node? (f : Forest) : Key → Option Node
  | 0 => none
  | i + 1 => f.nodes[i]?

/-- The node with a key; a key that no node has stands for a nameless node without relations. -/
def node (f : Forest) (k : Key) : Node := (f.node? k).getD (Node.new "" [] true)

/-- A node as it stands in a message. -/
def shownNode (f : Forest) (k : Key) : String :=
  "<SceneNode " ++ Text.quoted (f.node k).name ++ " #" ++ toString k ++ ">"

def modify (f : Forest) (k : Key) (g : Node → Node) : Forest :=
  match k with
  | 0 => f
  | i + 1 => { f with nodes := f.nodes.modify i g }

def scene? (f : Forest) (s : SceneId) : Option Scene := f.scenes[s]?

def scene (f : Forest) (s : SceneId) : Scene := (f.scene? s).getD ⟨"", []⟩

def modifyScene (f : Forest) (s : SceneId) (g : Scene → Scene) : Forest :=
  { f with scenes := f.scenes.modify s g }

def roots (f : Forest) (s : SceneId) : List Key := (f.scene s).roots

/-! ### Walks -/

/-- A node, its parent and so on, at most `n` nodes. -/
def chainUpTo (f : Forest) : Nat → Key → List Key
  | 0, _ => []
  | n + 1, k =>
    k :: match (f.node k).parent with
      | some p => f.chainUpTo n p
      | none => []

/-- A node and its ancestors, the node first. -/
def chain (f : Forest) (k : Key) : List Key := f.chainUpTo f.nodes.length k

def depth (f : Forest) (k : Key) : Nat := (f.chain k).length - 1

/-- A node and the nodes below it to a depth less than `n`, each before its children. -/
def subtreeTo (f : Forest) : Nat → Key → List Key
  | 0, _ => []
  | n + 1, k => k :: (f.node k).children.flatMap (f.subtreeTo n)

/-- A node and all nodes below it, each before its children. -/
def subtree (f : Forest) (k : Key) : List Key := f.subtreeTo f.nodes.length k

/-- The nodes of a scene in hierarchy order. -/
def walk (f : Forest) (s : SceneId) : List Key := (f.roots s).flatMap f.subtree

/-! ### Names -/

def pathSeparator : String := "/"

/-- The names from the root to the node, joined by the separator. -/
def fullPath (f : Forest) (k : Key) : String :=
  pathSeparator.intercalate ((f.chain k).reverse.map fun a => (f.node a).name)

/-- The first child with a name. -/
def child? (f : Forest) (k : Key) (name : String) : Option Key :=
  (f.node k).children.find? fun c => (f.node c).name == name

/-- The node that a list of names leads to, one child for each. -/
def descend? (f : Forest) (k : Key) : List String → Option Key
  | [] => some k
  | name :: names =>
    match f.child? k name with
    | some c => f.descend? c names
    | none => none

def splitPath (path : String) : List String :=
  (Text.splitAt '/' path.toList).map String.ofList

/-- The node at a path relative to another. -/
def find? (f : Forest) (k : Key) (path : String) : Option Key := f.descend? k (splitPath path)

/-- The node that a path leads to in a scene; the first root that has it wins. A path that ends
after the name of a root and a separator means the root. -/
def findByPath? (f : Forest) (s : SceneId) (path : String) : Option Key :=
  match splitPath path with
  | [] => none
  | root :: names =>
    if path.isEmpty then none
    else
      let names := if names = [""] then [] else names
      ((f.roots s).filter fun r => (f.node r).name == root).findSome? fun r => f.descend? r names

def findByName (f : Forest) (s : SceneId) (name : String) : List Key :=
  (f.walk s).filter fun k => (f.node k).name == name

/-- The names from below a node down to another. -/
def relativePath (f : Forest) (k descendant : Key) : Except Failure String :=
  let up := f.chain descendant
  if up.contains k then
    .ok (pathSeparator.intercalate ((up.takeWhile (· != k)).reverse.map fun a => (f.node a).name))
  else .error (.value (.notBelow (f.node descendant).name (f.node k).name))

/-! ### Components -/

/-- The component that a node keeps under a label. -/
def labelled? (f : Forest) (k : Key) (label : Value) : Option Component :=
  (f.node k).components.find? fun c => c.label.sameKey label

def component? (f : Forest) (k : Key) (kind : ComponentKind) : Option Component :=
  f.labelled? k (.text kind.label)

def hasComponent (f : Forest) (k : Key) (kind : ComponentKind) : Bool :=
  (f.component? k kind).isSome

/-- Puts a component in the place of the one of its label, or after all others. -/
def putComponent (cs : List Component) (c : Component) : List Component :=
  if cs.any fun d => d.label.sameKey c.label then
    cs.map fun d => if d.label.sameKey c.label then c else d
  else cs ++ [c]

def addComponent (f : Forest) (k : Key) (c : Component) : Forest :=
  f.modify k fun n => { n with components := putComponent n.components c }

def modifyComponent (f : Forest) (k : Key) (label : Value) (g : Component → Component) : Forest :=
  f.modify k fun n =>
    { n with components := n.components.map fun c => if c.label.sameKey label then g c else c }

/-! ### Edits -/

/-- Announces an edit of a node to the scene that the node belongs to. -/
def announce (f : Forest) (k : Key) : Forest :=
  match (f.node k).scene with
  | some s => { f with changes := ⟨s, k, f.subtree k⟩ :: f.changes }
  | none => f

def addScene (f : Forest) (name : String) : Forest × SceneId :=
  ({ f with scenes := f.scenes ++ [⟨name, []⟩] }, f.scenes.length)

def create (f : Forest) (n : Node) : Forest × Key :=
  ({ f with nodes := f.nodes ++ [n] }, f.nodes.length + 1)

/-- Puts a node and all below it into a scene, or into none. -/
def assignScene (f : Forest) (k : Key) (s : Option SceneId) : Forest :=
  (f.subtree k).foldl (fun f d => f.modify d fun n => { n with scene := s }) f

/-- Takes a node out of its parent's children, or out of its scene's roots. -/
def unlink (f : Forest) (k : Key) : Forest :=
  match (f.node k).parent, (f.node k).scene with
  | some p, _ => f.modify p fun n => { n with children := n.children.erase k }
  | none, some s => f.modifyScene s fun sc => { sc with roots := sc.roots.erase k }
  | none, none => f

/-- Moves a node below another or, with no parent, out of the hierarchy. A node that gets a parent
joins the parent's scene; one that loses it keeps its scene. -/
def setParent (f : Forest) (k : Key) (parent : Option Key) : Forest :=
  if (f.node k).parent = parent then f
  else
    let f := (f.unlink k).modify k fun n => { n with parent }
    let f :=
      match parent with
      | some p =>
        let f := f.modify p fun n => { n with children := n.children ++ [k] }
        f.assignScene k (f.node p).scene
      | none => f
    f.announce k

/-- Makes a node a root of a scene. Only leaving a parent is announced. -/
def addRoot (f : Forest) (s : SceneId) (k : Key) : Forest :=
  let f := f.setParent k none
  let f := f.assignScene k (some s)
  f.modifyScene s fun sc =>
    { sc with roots := if sc.roots.contains k then sc.roots else sc.roots ++ [k] }

def rename (f : Forest) (k : Key) (name : String) : Forest :=
  if (f.node k).name = name then f
  else (f.modify k fun n => { n with name }).announce k

/-- Takes a node out of the hierarchy for good, with all below it. -/
def destroy (f : Forest) (k : Key) : Forest :=
  if (f.node k).destroyed then f
  else
    let f := (f.announce k).unlink k
    let f := (f.subtree k).foldl (fun f d => f.modify d fun n => { n with destroyed := true }) f
    f.modify k fun n => { n with parent := none }

def setActive (f : Forest) (k : Key) (active : Bool) : Forest :=
  f.modify k fun n => { n with active }

end Forest

end SceneBindings
