import SceneBindings.Session.SceneSteps

/-!
Steps that work on the registry, with the use of a generated library.
-/

namespace SceneBindings.Session

open Run

variable [Yaml] [Validator]

/-- A key that is no text names no path; looking it up fails when the finding is recorded. -/
def pathKey : Value → Except Failure ElementKey
  | .text s => .ok (.path s)
  | .list _ => .error .wrongKind
  | .object _ => .error .wrongKind
  | _ => .error (.invalid [⟨["subject"], .notString⟩])

def nodeKey : Value → Except Failure ElementKey
  | .list _ => .error .wrongKind
  | .object _ => .error .wrongKind
  | v => .ok (.key v.shown (keyValue? v))

def Asked.elementKey (a : Asked) : Except Failure ElementKey :=
  if a.isKey then nodeKey a.key else pathKey a.key

/-- What a key to remove means: a number is the key of a node and a text is a path; of the rest,
what is not given means nothing. -/
def removalKey (v : Value) : Except Failure (Option ElementKey) :=
  match v with
  | .int _ => some <$> nodeKey v
  | .bool _ => some <$> nodeKey v
  | .text s => .ok (some (.path s))
  | _ => if v.isTruthy then .error .noAttribute else .ok none

def rowOf (f : Forest) (r : Reference) : Answer :=
  .object [("name", .text r.name), ("path", .text r.path),
    ("capability", .text r.capability.label), ("bound", .bool (r.isBound f))]

def row (i : RefId) : Run Answer := return rowOf (← forest) ((← registry).reference i)

def probe : Option String → Run Probe
  | some label => do
    let c ← capability label
    return fun _ _ => c
  | none => return Probe.standard

def fetchedAnswer : Registry.Fetched → Answer
  | .node k => .node k
  | .component k kind => .list [.text kind.label, .node k]

/-- The kind of component that a type means; the type of nodes means none. -/
def kind? (type : String) : Run (Option ComponentKind) :=
  if type = Capability.nodeType then return none
  else
    match ComponentKind.ofLabel? type with
    | some kind => return some kind
    | none => throw (.noComponent type)

/-- What an accessor fetches from one of the registries. -/
def fetch (i : Nat) (key : ElementKey) (kind : Option ComponentKind) : Run Answer := do
  let g := (← slotAt i).registry
  let (r, ds) := g.fetch (← forest) key kind
  report ds
  return .ofOption fetchedAnswer r

def panelsAnswer : Run Answer := do
  let g ← registry
  return .object [("active", .list (g.activePanels.map .count)), ("last", .ofOption .count g.lastActive)]

/-- The first reference that is stored under a path. -/
def storedAt? (g : Registry) (path : String) : Option RefId :=
  g.ids.find? fun i => (g.reference i).path == path

def runRegistry : RegistryStep → Run Answer
  | .new withScene => do
    let s ← get
    replaceRegistry (if withScene then .ofScene s.forest s.scene else .blank s.forest)
    return .null
  | .useStandardizer on => do
    let n ← if on then some <$> namer else pure none
    let i := (← get).registry
    setSlot i { ← slot with namer := n }
    return .null
  | .add h standardize p => do
    let k ← node? h
    let p ← probe p
    match ← tryRegistry fun w => w.add k p standardize with
    | some i => row i
    | none => return .null
  | .addMany hs p => do
    let ks ← hs.mapM node?
    let p ← probe p
    let is ← tryRegistry fun w => w.addMany p ks
    let g ← registry
    return .texts (is.map fun i => (g.reference i).path)
  | .remove v => do
    match ← ofExcept (removalKey v) with
    | some key => return .bool (← withRegistry fun w => w.remove key)
    | none => return .bool (← withRegistry fun w => w.rejectPath v.shown)
  | .contains path key => do
    let g ← registry
    return .bool (path.any g.hasPath || (keyValue? key).any g.hasKey)
  | .getReference path => do
    match (← registry).findPath? path with
    | some i => row i
    | none => return .null
  | .lookup v label => do
    let c ← capability? label
    let key ← ofExcept (pathKey v)
    match (← registry).lookup (← forest) c key.given with
    | .ok k => return .node k
    | .error d =>
      report [d]
      return .null
  | .lookupKey v => do
    let key ← ofExcept (nodeKey v)
    match (← registry).resolve (← forest) key with
    | .ok k => return .node k
    | .error d =>
      report [d]
      return .null
  | .categories => do
    let g ← registry
    return .list (g.categories.map fun c =>
      .list [.text c.name, .texts (c.members.map fun i => (g.reference i).path)])
  | .category name => do
    match (← registry).category? name with
    | some c => return .list (← c.members.mapM row)
    | none => return .null
  | .references => return .list (← (← registry).ids.mapM row)
  | .duplicateNames => return .texts (← registry).duplicateNames
  | .size => return .count (← registry).size
  | .has path => return .bool ((← registry).hasPath path)
  | .getComponent asked type => do
    let kind ← kind? type
    let key ← ofExcept asked.elementKey
    fetch (← get).registry key kind
  | .getPanel asked => do
    let key ← ofExcept asked.elementKey
    return .ofOption .node (← withRegistry fun w => w.panel key)
  | .setPanelActive asked isActive others keepLast => do
    let key ← ofExcept asked.elementKey
    return .bool (← withRegistry fun w => w.setPanelActive key isActive others keepLast)
  | .togglePanel v => do
    let key ← ofExcept (pathKey v)
    return .bool (← withRegistry fun w => w.togglePanel key)
  | .isPanelVisible v => do
    let key ← ofExcept (pathKey v)
    return .bool (← withRegistry fun w => w.isPanelVisible key)
  | .activate h exclusive keepLast => do
    let k ← node h
    withRegistry fun w => (w.activate k exclusive keepLast, ())
    panelsAnswer
  | .deactivate h => do
    let k ← node h
    withRegistry fun w => (w.deactivate k, ())
    panelsAnswer
  | .panels => panelsAnswer
  | .bindScene => do
    let s := (← get).scene
    return .count (← withRegistry fun w => w.bindScene s)
  | .missing => do
    let is ← withRegistry fun w => (w, w.missing)
    let g ← registry
    return .texts (is.map fun i => (g.reference i).path)
  | .repair withScene => do
    let s := (← get).scene
    return .count (← withRegistry fun w => w.repair (if withScene then some s else none))
  | .removeMissing => return .count (← withRegistry Workspace.removeMissing)
  | .refreshPaths => return .count (← withRegistry Workspace.refreshPaths)
  | .clearPathCache => do
    withRegistry fun w =>
      ({ w with registry :=
          { w.registry with cache := w.registry.cache.clear w.forest } }, ())
    return .null
  | .dispose => do
    withRegistry fun w => ({ w with registry := w.registry.dispose w.forest }, ())
    return .null
  | .document => return .value (← ofExcept (← registry).document)
  | .loadDocument data => do
    let g ← ofExcept (Registry.ofValue (← forest) data)
    replaceRegistry g
    return .count g.size
  | .save path => do
    let g ← registry
    withDesk fun d => d.storeRegistry (filePath path) g
    return .null
  | .load path => do
    let g ← ofExcept ((← get).files.readRegistry (← forest) (filePath path))
    replaceRegistry g
    return .list [.text g.sceneName, .count g.size]
  | .setReference path newPath newName => do
    match storedAt? (← registry) path with
    | some i =>
      withRegistry fun w =>
        ({ w with registry := w.registry.modify i fun r =>
            { r with path := newPath.getD r.path, name := newName.getD r.name } }, ())
    | none => pure ()
    return .null

/-! ### The use of a library -/

/-- The registry that the library was given. -/
def boundRegistry : Run Nat := do
  let l := (← get).library
  match l.registry with
  | some i => return i
  | none => throw (.libraryUnused l.scene)

/-- The name under which an accessor is declared. -/
def accessorName : String := "Element_Name"

def runBinding : BindingStep → Run Answer
  | .new scene => do
    modify fun s => { s with library := ⟨scene, none⟩ }
    return .null
  | .install withRegistry => do
    if !withRegistry then throw (.value .noRegistry)
    modify fun s => { s with library := { s.library with registry := some s.registry } }
    return .null
  | .reset => do
    modify fun s => { s with library := { s.library with registry := none } }
    return .null
  | .isInitialized => return .bool (← get).library.registry.isSome
  | .get path type => do
    let kind ← kind? type
    fetch (← boundRegistry) (.path path) kind
  | .setPanel path isActive others keepLast => do
    let i ← boundRegistry
    return .bool (← onRegistry i fun w => w.setPanelActive (.path path) isActive others keepLast)
  | .toggle path => do
    let i ← boundRegistry
    return .bool (← onRegistry i fun w => w.togglePanel (.path path))
  | .isVisible path => do
    let i ← boundRegistry
    return .bool (← onRegistry i fun w => w.isPanelVisible (.path path))
  | .accessor path type => do
    let kind ← kind? type
    return .list [.text accessorName, ← fetch (← boundRegistry) (.path path) kind]
  | .visibility path => do
    let i ← boundRegistry
    return .bool (← onRegistry i fun w => w.isPanelVisible (.path path))

end SceneBindings.Session
