import SceneBindings.Component.Operations
import SceneBindings.Files.Documents
import SceneBindings.Session.State

/-!
Steps that read and edit scenes and components.
-/

namespace SceneBindings.Session

open Run

variable [Yaml] [Validator]

def describeComponent (f : Forest) (owner : Key) (c : Component) : String :=
  "<" ++ f.shownType c ++ " on " ++ (f.node (c.base owner)).name ++ ">"

def describeNode (f : Forest) (k : Key) : Answer :=
  let n := f.node k
  .object [
    ("key", .count k),
    ("name", .text n.name),
    ("path", .text (f.fullPath k)),
    ("depth", .count (f.depth k)),
    ("leaf", .bool n.children.isEmpty),
    ("active", .bool n.active),
    ("destroyed", .bool n.destroyed),
    ("parent", .ofOption .node n.parent),
    ("children", .list (n.children.map .node)),
    ("capability", .text (f.classify k).label),
    ("components", .texts (n.components.map (describeComponent f k))),
    ("in_scene", .bool n.scene.isSome),
    ("repr", .text (f.shownNode k))]

/-- A component as a node takes it over. -/
def readComponent (v : Value) : Except Failure Component :=
  match Component.ofDescription v with
  | .ok c => if c.label.isKey then .ok c else .error .wrongKind
  | .error e => .error e

/-- The components of a new node, of which later ones take the place of earlier ones of a label. -/
def collectComponents (cs : List Component) : List Component := cs.foldl Forest.putComponent []

def makeNode (name : String) (specs : List Value) (active : Bool) (parent : Handle) (root : Bool) :
    Run Answer := do
  let cs ← ofExcept (specs.mapM readComponent)
  let s ← get
  let (f, k) := s.forest.create (Node.new name (collectComponents cs) active)
  setForest f
  if root then edit fun f => f.addRoot s.scene k
  else
    match ← node? parent with
    | some p => edit fun f => f.setParent k (some p)
    | none => pure ()
  return .node k

/-- Makes a described scene the current one. -/
def openScene (data : Value) : Run Answer := do
  let loaded := (← forest).loadScene data
  setForest loaded.forest
  say loaded.events
  let s ← ofExcept loaded.result
  modify fun st => { st with scene := s }
  return .text ((← forest).scene s).name

def keyValue? : Value → Option Key
  | .int (.ofNat k) => some k
  | .int _ => none
  | .bool b => some (if b then 1 else 0)
  | .float x =>
    match x.integral? with
    | some (.ofNat k) => some k
    | _ => none
  | _ => none

def runScene : SceneStep → Run Answer
  | .makeNode name components active parent root => makeNode name components active parent root
  | .addComponent h spec => do
    let k ← node h
    let c ← ofExcept (readComponent spec)
    edit fun f => f.addComponent k c
    return .value c.label
  | .hasComponent h type => do
    let k ← node h
    return .bool ((← forest).labelled? k (.text type)).isSome
  | .setParent h parent => do
    let k ← node h
    let p ← node? parent
    edit fun f => f.setParent k p
    return .null
  | .addRoot h => do
    let k ← node h
    let s := (← get).scene
    edit fun f => f.addRoot s k
    return .null
  | .rename h name => do
    let k ← node h
    edit fun f => f.rename k name
    return .null
  | .destroy h => do
    let k ← node h
    edit fun f => f.destroy k
    return .null
  | .setActive h active => do
    let k ← node h
    edit fun f => f.setActive k active
    return .null
  | .node h => return describeNode (← forest) (← node h)
  | .walk => do
    let s ← get
    return .list ((s.forest.walk s.scene).map fun k =>
      .list [.count k, .text (s.forest.fullPath k)])
  | .subtree h => return .list (((← forest).subtree (← node h)).map .node)
  | .findByPath path => do
    let s ← get
    return .ofOption .node (s.forest.findByPath? s.scene path)
  | .findByName name => do
    let s ← get
    return .list ((s.forest.findByName s.scene name).map .node)
  | .findByKey v => do
    let s ← get
    return .ofOption .node ((s.forest.walk s.scene).find? fun k => keyValue? v == some k)
  | .child h name => return .ofOption .node ((← forest).child? (← node h) name)
  | .find h path => return .ofOption .node ((← forest).find? (← node h) path)
  | .relativePath h d => do
    let path ← ofExcept ((← forest).relativePath (← node h) (← node d))
    return .text path
  | .describe => do
    let s ← get
    return .value (← ofExcept (s.forest.writeScene s.scene))
  | .capabilities => do
    let s ← get
    return .list ((s.forest.walk s.scene).map fun k =>
      .texts [s.forest.fullPath k, (s.forest.classify k).label])
  | .save path => do
    let s ← get
    withDesk fun d => d.storeDocument (filePath path) (s.forest.writeScene s.scene)
    return .null
  | .load path => do
    openScene (← ofExcept ((← get).files.readScene (filePath path)))
  | .new data => openScene data
  | .subscribe id => do
    modify fun s =>
      let w := (s.scene, id)
      { s with watchers := if s.watchers.contains w then s.watchers else s.watchers ++ [w] }
    return .null
  | .unsubscribe id => do
    modify fun s => { s with watchers := s.watchers.erase (s.scene, id) }
    return .null

/-! ### Components -/

/-- The component that a target means. -/
def component (t : Target) : Run (Key × Component) := do
  let k ← node t.node
  match (← forest).labelled? k (.text t.component) with
  | some c => return (k, c)
  | none => throw (.noComponent t.component)

def storeComponent (k : Key) (c : Component) : Run Unit :=
  edit fun f => f.modifyComponent k c.label fun _ => c

def attribute? (k : Key) (c : Component) (name : String) : Option Answer :=
  if name = "node" then some (.node (c.base k))
  else
    match c.held? name with
    | some (.value v) => some (.value v)
    | some (.node k) => some (.node k)
    | none =>
      if (c.listeners? name).isSome then some (.event name)
      else if name = "type_name" then some (.text c.kind.label)
      else if name = "node_refs" then some (.texts c.kind.parts)
      else none

def listenersOf (t : Target) (event : String) : Run (Key × Component × List String) := do
  let (k, c) ← component t
  match c.listeners? event with
  | some ids => return (k, c, ids)
  | none => throw .noAttribute

/-- Calls listeners in order; `next` runs what a listener does. -/
def callListeners (next : Step → Run Answer) (args : List Value) : List String → Run Unit
  | [] => return ()
  | id :: ids => do
    modify fun s => { s with fired := s.fired ++ [(id, args)] }
    match (← get).listeners.get? id with
    | some (some step) => discard (next step)
    | _ => pure ()
    callListeners next args ids

def runComponent (next : Step → Run Answer) : ComponentStep → Run Answer
  | .state t => do
    let (k, c) ← component t
    let fields ← ofExcept ((← forest).writeComponent k c)
    return .value (.object fields)
  | .attr t name => do
    let (k, c) ← component t
    match attribute? k c name with
    | some a => return a
    | none => throw .noAttribute
  | .call t method args => do
    let (k, c) ← component t
    let (c, r) := c.operate method args
    storeComponent k c
    match ← ofExcept r with
    | some args =>
      callListeners next args (c.listeners.getD [])
    | none => pure ()
    return .null
  | .unlisten t event id => do
    let (k, c, ids) ← listenersOf t event
    storeComponent k (c.setListeners (ids.erase id))
    return .count (ids.erase id).length
  | .unlistenAll t event => do
    let (k, c, _) ← listenersOf t event
    storeComponent k (c.setListeners [])
    return .count 0
  | .invoke t event args => do
    let (_, _, ids) ← listenersOf t event
    callListeners next args ids
    return .null

def runListen (t : Target) (event id : String) (andThen : Option Step) : Run Answer := do
  let (k, c, ids) ← listenersOf t event
  modify fun s =>
    { s with listeners :=
        if s.listeners.contains id then s.listeners else s.listeners.put id andThen }
  storeComponent k (c.setListeners (ids ++ [id]))
  return .count (ids.length + 1)

end SceneBindings.Session
