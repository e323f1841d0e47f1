import SceneBindings.Forest.PathCache
import SceneBindings.Registry.Document

/-!
The registry of interface elements. Each reference is kept under a canonical path; references are
listed by category in the order of discovery, and indexed by path and by the key of the node that
they are bound to.
-/

namespace SceneBindings

/-- The number of a reference within its registry. -/
abbrev RefId := Nat

/-- The node of a reference; a reference that lost its node still knows the key. -/
inductive Binding where
  | never
  | bound (k : Key)
  | released (k : Key)
  deriving DecidableEq, Repr

def Binding.release : Binding → Binding
  | bound k => released k
  | b => b

def Binding.node? : Binding → Option Key
  | bound k => some k
  | _ => none

def Binding.lastKey? : Binding → Option Key
  | bound k => some k
  | released k => some k
  | never => none

structure Reference where
  name : String
  path : String
  capability : Capability
  binding : Binding
  deriving DecidableEq, Repr

/-- A reference is bound as long as its node is alive. -/
def Reference.isBound (r : Reference) (f : Forest) : Bool :=
  match r.binding.node? with
  | some k => !(f.node k).destroyed
  | none => false

/-- The words of the name. -/
def nameParts (name : String) : List String :=
  (Text.wordsBy (· == '_') name.toList).map String.ofList

structure Category where
  name : String
  members : List RefId
  deriving DecidableEq, Repr

structure Registry where
  sceneName : String
  /-- All references that the registry ever held, by number. -/
  store : List Reference
  categories : List Category
  byPath : Table String RefId
  byKey : Table Key String
  cache : PathCache
  scene : Option SceneId
  /-- The active panels by their keys, in the order of activation. -/
  active : Table Key Key
  lastActive : Option Key

namespace Registry

def blank (f : Forest) : Registry :=
  ⟨"", [], [], .empty, .empty, .new f, none, .empty, none⟩

def reference (g : Registry) (i : RefId) : Reference :=
  (g.store[i]?).getD ⟨"", "", .unknown, .never⟩

def modify (g : Registry) (i : RefId) (h : Reference → Reference) : Registry :=
  { g with store := g.store.modify i h }

/-- The numbers of the references in category order. -/
def ids (g : Registry) : List RefId := g.categories.flatMap (·.members)

def references (g : Registry) : List Reference := g.ids.map g.reference

def size (g : Registry) : Nat := g.ids.length

def activePanels (g : Registry) : List Key := g.active.values

def hasPath (g : Registry) (path : String) : Bool := g.byPath.contains path

def hasKey (g : Registry) (k : Key) : Bool := g.byKey.contains k

def findPath? (g : Registry) (path : String) : Option RefId := g.byPath.get? path

def category? (g : Registry) (name : String) : Option Category :=
  g.categories.find? fun c => c.name == name

/-- Names that more than one reference has, in alphabetical order. -/
def duplicateNames (g : Registry) : List String :=
  let names := g.references.map (·.name)
  (names.eraseDups.filter fun n => 1 < names.count n).mergeSort fun a b => decide (a ≤ b)

/-! ### Scenes -/

/-- Follows a scene and leaves the one followed before. -/
def attach (g : Registry) (f : Forest) (s : SceneId) : Registry :=
  let cache :=
    match g.scene with
    | some old => if old = s then g.cache else (g.cache.detach f old).clear f
    | none => g.cache
  { g with
    cache := cache.attach f s
    scene := some s
    sceneName := if g.sceneName.isEmpty then (f.scene s).name else g.sceneName }

/-- An empty registry for a scene. -/
def ofScene (f : Forest) (s : SceneId) : Registry := (blank f).attach f s

def resetPanels (g : Registry) : Registry := { g with active := .empty, lastActive := none }

def dispose (g : Registry) (f : Forest) : Registry :=
  let cache := g.cache.clear f
  let cache :=
    match g.scene with
    | some s => cache.detach f s
    | none => cache
  { g.resetPanels with byPath := .empty, byKey := .empty, cache, scene := none }

/-! ### Indices -/

/-- The canonical path of a node as the registry knows it. -/
def pathOf (g : Registry) (f : Forest) (k : Key) : Registry × String :=
  let p := g.cache.get f k
  ({ g with cache := p.1 }, p.2)

/-- Enters a reference under its path and, if it is bound, under its node. -/
def index (g : Registry) (f : Forest) (i : RefId) : Registry :=
  let r := g.reference i
  { g with
    byPath := g.byPath.put r.path i
    byKey :=
      match r.binding.node? with
      | some k => if r.isBound f then g.byKey.put k r.path else g.byKey
      | none => g.byKey }

def addMember (i : RefId) (name : String) : List Category → List Category
  | [] => [⟨name, [i]⟩]
  | c :: cs =>
    if c.name = name then { c with members := c.members ++ [i] } :: cs
    else c :: addMember i name cs

/-- Takes a new reference into its category and both indices. -/
def insert (g : Registry) (f : Forest) (r : Reference) : Registry × RefId :=
  let i := g.store.length
  let g :=
    { g with
      store := g.store ++ [r]
      categories := addMember i r.capability.label g.categories }
  (g.index f i, i)

def removeMember (i : RefId) (name : String) : List Category → List Category
  | [] => []
  | c :: cs =>
    if c.name = name then { c with members := c.members.filter (· != i) } :: cs
    else c :: removeMember i name cs

/-- Switches a panel off. -/
def deactivate (g : Registry) (f : Forest) (k : Key) : Registry × Forest :=
  ({ g with
     active := g.active.erase k
     lastActive := if g.lastActive = some k then none else g.lastActive },
    f.setActive k false)

/-- Takes a reference out of the indices and its category, and lets its node go. -/
def drop (g : Registry) (f : Forest) (i : RefId) : Registry × Forest :=
  let r := g.reference i
  let byPath := if g.byPath.get? r.path = some i then g.byPath.erase r.path else g.byPath
  let byKey :=
    match r.binding.lastKey? with
    | some k => if g.byKey.get? k = some r.path then g.byKey.erase k else g.byKey
    | none => g.byKey
  let g := { g with
    byPath, byKey, categories := removeMember i r.capability.label g.categories }
  let (g, f) :=
    match r.binding.node? with
    | some k => if g.active.contains k then g.deactivate f k else (g, f)
    | none => (g, f)
  (g.modify i fun r => { r with binding := r.binding.release }, f)

end Registry

end SceneBindings
