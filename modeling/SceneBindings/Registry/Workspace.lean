import SceneBindings.Registry.Lookup
import SceneBindings.Standardizer

/-!
Registering elements and keeping the registry in step with the scene.
-/

namespace SceneBindings

/-- What registry operations work on: the forest, the registry, the standardizer that renames nodes
as they are registered, if there is one, and all that was said. -/
structure Workspace where
  forest : Forest
  registry : Registry
  namer : Option Standardizer
  events : List Event

/-- How the role of a node is found. -/
abbrev Probe := Forest → Key → Capability

def Probe.standard : Probe := Forest.classify

namespace Workspace

def say (w : Workspace) (e : Event) : Workspace := { w with events := w.events ++ [e] }

def report (w : Workspace) (d : Diagnostic) : Workspace := w.say (.found d)

def reportAll (w : Workspace) (ds : List Diagnostic) : Workspace := ds.foldl report w

def name (w : Workspace) (k : Key) : String := (w.forest.node k).name

def pathOf (w : Workspace) (k : Key) : Workspace × String :=
  let p := w.registry.pathOf w.forest k
  ({ w with registry := p.1 }, p.2)

/-! ### Adding -/

def rejectDuplicate (w : Workspace) (k : Key) (path : String) : Workspace :=
  w.report (.warn .duplicate
    ("Duplicate UI element '" ++ w.name k ++ "' attempted to be added. Skipping.") path)

/-- The path that a node would have under a new name. -/
def renamedPath (w : Workspace) (k : Key) (name : String) : Workspace × String :=
  match (w.forest.node k).parent with
  | some p =>
    let (w, path) := w.pathOf p
    (w, path ++ Forest.pathSeparator ++ name)
  | none => (w, name)

/-- Gives a node its canonical name. If the name would lead to a path that is taken, nothing is
renamed and that path is the result. What stops the renaming stops the registration too. -/
def standardizeNew (w : Workspace) (k : Key) : Workspace × Except Failure (Option String) :=
  let namer := w.namer.getD (.new true true)
  let w := { w with namer := some namer }
  let proposed := namer.proposedName w.forest k false
  let (w, taken) :=
    if proposed == w.name k then (w, none)
    else
      let (w, path) := w.renamedPath k proposed
      (w, if w.registry.hasPath path then some path else none)
  match taken with
  | some path => (w, .ok (some path))
  | none =>
    let r := (Renaming.standardize ⟨w.forest, namer, w.events, none⟩ k false).1
    let w := { w with forest := r.forest, namer := some r.namer, events := r.events }
    match r.fault with
    | some e => (w, .error e)
    | none =>
      ({ w with registry := { w.registry with cache := w.registry.cache.invalidate w.forest k } },
        .ok none)

/-- Registers a node under the path that it has now. -/
def addAsIs (w : Workspace) (k : Key) (probe : Probe) :
    Workspace × Except Failure (Option RefId) :=
  let capability := probe w.forest k
  let (w, path) := w.pathOf k
  if !isCanonicalPath path then
    (w.report (.fault .malformed ("UI element '" ++ w.name k ++ "' has a malformed path") path),
      .ok none)
  else if w.registry.hasPath path || w.registry.hasKey k then (w.rejectDuplicate k path, .ok none)
  else
    match (StoredReference.mk (w.name k) path capability).validate with
    | .bad issues => (w, .error (.invalid issues))
    | .ok () =>
      let (registry, i) := w.registry.insert w.forest ⟨w.name k, path, capability, .bound k⟩
      ({ w with registry }, .ok (some i))

/-- Registers a node. A node that is known already, by key or by path, is rejected. -/
def addNode (w : Workspace) (k : Key) (probe : Probe) (standardize : Bool) :
    Workspace × Except Failure (Option RefId) :=
  if (w.forest.node k).destroyed then
    (w.report (.warn .missingReference
      ("UI element '" ++ w.name k ++ "' has been destroyed") (w.name k)), .ok none)
  else
    match w.registry.byKey.get? k with
    | some path => (w.rejectDuplicate k path, .ok none)
    | none =>
      if standardize then
        match w.standardizeNew k with
        | (w, .ok (some path)) => (w.rejectDuplicate k path, .ok none)
        | (w, .ok none) => w.addAsIs k probe
        | (w, .error e) => (w, .error e)
      else w.addAsIs k probe

/-- Registers a node if there is one. Unless told otherwise, a node is standardized exactly if the
registry has a standardizer. -/
def add (w : Workspace) (k : Option Key) (probe : Probe) (standardize : Option Bool) :
    Workspace × Except Failure (Option RefId) :=
  match k with
  | none => (w.report (.fault .malformed "Attempted to add a null UI element" ""), .ok none)
  | some k => w.addNode k probe (standardize.getD w.namer.isSome)

/-- Registers nodes one by one and yields the references made. -/
def addMany (w : Workspace) (probe : Probe) :
    List (Option Key) → Workspace × Except Failure (List RefId)
  | [] => (w, .ok [])
  | k :: ks =>
    match w.add k probe none with
    | (w, .error e) => (w, .error e)
    | (w, .ok i) =>
      match w.addMany probe ks with
      | (w, .error e) => (w, .error e)
      | (w, .ok is) => (w, .ok (i.toList ++ is))

/-! ### Removing -/

def drop (w : Workspace) (i : RefId) : Workspace :=
  let (registry, forest) := w.registry.drop w.forest i
  { w with registry, forest }

def rejectPath (w : Workspace) (shown : String) : Workspace × Bool :=
  (w.report (.fault .malformed "Cannot remove a reference with a malformed path" shown), false)

def removePath (w : Workspace) (path : String) : Workspace × Bool :=
  if !isCanonicalPath path then w.rejectPath path
  else
    match w.registry.findPath? path with
    | some i => (w.drop i, true)
    | none => (w.report (Registry.noPath path), false)

def removeKey (w : Workspace) (given : String) (k : Option Key) : Workspace × Bool :=
  match (k.bind w.registry.byKey.get?).bind w.registry.findPath? with
  | some i => (w.drop i, true)
  | none => (w.report (Registry.noKey given), false)

def remove (w : Workspace) : ElementKey → Workspace × Bool
  | .path p => w.removePath p
  | .key given k => w.removeKey given k

/-! ### Binding -/

/-- Binds one reference to the node at its path, if there is one that no other reference has, and says
whether it was bound. -/
def bindOne (s : SceneId) (w : Workspace) (i : RefId) : Workspace × Bool :=
  let r := w.registry.reference i
  let release (w : Workspace) : Workspace :=
    { w with registry := w.registry.modify i fun r => { r with binding := r.binding.release } }
  let missing (w : Workspace) : Workspace :=
    (release w).report (.warn .missingReference
      ("UI element '" ++ r.name ++ "' is missing or has been destroyed") r.path)
  match w.forest.findByPath? s r.path with
  | none => (missing w, false)
  | some k =>
    if (w.forest.node k).destroyed then (missing w, false)
    else if w.registry.hasPath r.path || w.registry.hasKey k then
      ((release w).report (.warn .duplicate
        ("UI element '" ++ r.name ++ "' is registered twice") r.path), false)
    else
      let registry := w.registry.modify i fun r => { r with binding := .bound k }
      ({ w with registry := registry.index w.forest i }, true)

/-- Binds references one by one and counts those that were bound. -/
def bindEach (s : SceneId) (w : Workspace) : List RefId → Workspace × Nat
  | [] => (w, 0)
  | i :: is =>
    let one := bindOne s w i
    let more := bindEach s one.1 is
    (more.1, more.2 + if one.2 then 1 else 0)

/-- Rebuilds both indices against a scene and counts the references that could be bound. -/
def bindScene (w : Workspace) (s : SceneId) : Workspace × Nat :=
  let g := (w.registry.attach w.forest s).resetPanels
  bindEach s { w with registry := { g with byPath := .empty, byKey := .empty } } g.ids

/-! ### Repairing -/

/-- The references whose node is gone. -/
def missing (w : Workspace) : List RefId :=
  w.registry.ids.filter fun i => !(w.registry.reference i).isBound w.forest

/-- A node of the scene with the reference's name, or the last name of its path, and its role. -/
def possibleMatch? (f : Forest) (s : SceneId) (r : Reference) : Option Key :=
  let lastName := (Forest.splitPath r.path).getLast?.getD ""
  [r.name, lastName].findSome? fun name =>
    (f.findByName s name).find? fun k => f.classify k == r.capability

/-- Binds a missing reference to the node at its path or to one that looks like it, and says whether
that was possible. -/
def repairOne (w : Workspace) (s : SceneId) (i : RefId) : Workspace × Bool :=
  let r := w.registry.reference i
  match w.forest.findByPath? s r.path <|> possibleMatch? w.forest s r with
  | none => (w, false)
  | some k =>
    if w.registry.hasKey k then (w, false)
    else
      let (w, path) := w.pathOf k
      let g := w.registry
      let g :=
        if g.byPath.get? r.path = some i then { g with byPath := g.byPath.erase r.path } else g
      if g.hasPath path then ({ w with registry := g }, false)
      else
        let g := g.modify i fun r => { r with path, binding := .bound k }
        (Workspace.say { w with registry := g.index w.forest i }
          (.remark ("Fixed missing reference: " ++ r.name)), true)

def repairEach (w : Workspace) (s : SceneId) : List RefId → Workspace × Nat
  | [] => (w, 0)
  | i :: is =>
    let one := w.repairOne s i
    let more := one.1.repairEach s is
    (more.1, more.2 + if one.2 then 1 else 0)

/-- Repairs what can be repaired, in the given scene or else in the registry's own. -/
def repair (w : Workspace) (s : Option SceneId) : Workspace × Nat :=
  match s <|> w.registry.scene with
  | some s => w.repairEach s w.missing
  | none => (w, 0)

def removeMissing (w : Workspace) : Workspace × Nat :=
  let gone := w.missing
  (gone.foldl drop w, gone.length)

/-! ### Moving -/

/-- Enters a bound reference under the path and name that its node has now, unless the path is
taken. -/
def refreshOne (w : Workspace) (i : RefId) : Workspace × Bool :=
  let r := w.registry.reference i
  match r.binding.node? with
  | none => (w, false)
  | some k =>
    if !r.isBound w.forest then (w, false)
    else
      let (w, path) := w.pathOf k
      if path == r.path then (w, false)
      else if w.registry.hasPath path then
        (w.report (.warn .duplicate
          ("Cannot move '" ++ r.name ++ "', path already registered") path), false)
      else
        let g := { w.registry with byPath := w.registry.byPath.erase r.path }
        let g := g.modify i fun r => { r with path, name := w.name k }
        ({ w with registry := g.index w.forest i }, true)

def refreshEach (w : Workspace) : List RefId → Workspace × Nat
  | [] => (w, 0)
  | i :: is =>
    let one := w.refreshOne i
    let more := one.1.refreshEach is
    (more.1, more.2 + if one.2 then 1 else 0)

/-- Follows renamed and moved nodes and counts the references that were entered anew. -/
def refreshPaths (w : Workspace) : Workspace × Nat := w.refreshEach w.registry.ids

/-! ### Panels -/

/-- The panels that stay active when one is activated alone. -/
def survives (g : Registry) (k : Key) (keepLast : Bool) (other : Key) : Bool :=
  other == k || (keepLast && g.lastActive == some other)

/-- Switches a panel on and, if `exclusive`, every other active panel off; with `keepLast` the panel
activated last is spared. -/
def activate (w : Workspace) (k : Key) (exclusive keepLast : Bool) : Workspace :=
  let g := w.registry
  let off := if exclusive then g.activePanels.filter fun o => !survives g k keepLast o else []
  { w with
    forest := (off.foldl (fun f o => f.setActive o false) w.forest).setActive k true
    registry :=
      { g with
        active := (off.foldl Table.erase g.active).put k k
        lastActive := some k } }

def deactivate (w : Workspace) (k : Key) : Workspace :=
  let (registry, forest) := w.registry.deactivate w.forest k
  { w with registry, forest }

/-- The panel of a key; what keeps it from being found is reported. -/
def panel (w : Workspace) (key : ElementKey) : Workspace × Option Key :=
  let (k, ds) := w.registry.panel w.forest key
  (w.reportAll ds, k)

def setPanelActive (w : Workspace) (key : ElementKey) (isActive deactivateOthers keepLast : Bool) :
    Workspace × Bool :=
  match w.panel key with
  | (w, none) => (w, false)
  | (w, some k) => (if isActive then w.activate k deactivateOthers keepLast else w.deactivate k, true)

def togglePanel (w : Workspace) (key : ElementKey) : Workspace × Bool :=
  match w.panel key with
  | (w, none) => (w, false)
  | (w, some k) =>
    (if (w.forest.node k).active then w.deactivate k else w.activate k false false, true)

def isPanelVisible (w : Workspace) (key : ElementKey) : Workspace × Bool :=
  match w.panel key with
  | (w, none) => (w, false)
  | (w, some k) => (w, (w.forest.node k).active)

end Workspace

/-! ### Storing -/

namespace Registry

def stored (g : Registry) : RegistryDocument :=
  ⟨g.sceneName, g.categories.map fun c =>
    ⟨c.name, c.members.map fun i =>
      let r := g.reference i
      ⟨r.name, r.path, r.capability⟩⟩⟩

/-- The document of a registry, if all names and paths are valid. -/
def toDocument (g : Registry) : Except (List Issue) RegistryDocument := g.stored.validate.toExcept

def ofCategory (g : Registry) (c : StoredCategory) : Registry :=
  { g with
    store := g.store ++ c.references.map fun r => ⟨r.name, r.path, r.capability, .never⟩
    categories := g.categories ++
      [⟨c.name, (List.range c.references.length).map (g.store.length + ·)⟩] }

/-- The registry that a document describes; nothing is bound yet. -/
def ofDocument (f : Forest) (d : RegistryDocument) : Registry :=
  d.categories.foldl ofCategory { blank f with sceneName := d.scene }

/-- The registry that a value describes, which must be an object. -/
def ofValue [Validator] (f : Forest) : Value → Except Failure Registry
  | .object fields =>
    match RegistryDocument.read fields with
    | .ok d => .ok (ofDocument f d)
    | .bad issues => .error (.invalid issues)
  | _ => .error .wrongKind

end Registry

end SceneBindings
