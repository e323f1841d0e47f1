import SceneBindings.Search.Debounce
import SceneBindings.Session.Step
import SceneBindings.Settings

/-!
The state of a session. Registries, standardizers and path caches are numbered, since several parts
of a session may hold on to the same one.
-/

namespace SceneBindings.Session

structure RegistrySlot where
  registry : Registry
  /-- The standardizer that renames nodes as they are registered. -/
  namer : Option Nat

structure IndexSlot where
  index : SearchIndex
  cache : Nat

/-- The handle through which a generated library finds its registry. -/
structure Library where
  scene : String
  registry : Option Nat

structure State where
  forest : Forest
  scene : SceneId
  registries : List RegistrySlot
  registry : Nat
  namers : List Standardizer
  /-- The session's own standardizer. -/
  namer : Option Nat
  indexes : Table String IndexSlot
  caches : List PathCache
  /-- Who watches which scene. -/
  watchers : List (SceneId × String)
  /-- The number of changes that the watchers have been told. -/
  told : Nat
  listeners : Table String (Option Step)
  settings : Settings
  files : Files
  /-- The files as they were last shown. -/
  baseline : Files
  now : Timestamp
  library : Library
  reporter : Reporter
  /-- Findings, listener calls and notifications of the current step. -/
  found : List Diagnostic
  fired : List (String × List Value)
  notified : List (String × Key)

def base : DiskPath := ⟨.single, ["project"]⟩

def noon : Timestamp := ⟨2024, 1, 1, 12, 0, 0⟩

def defaultScene : String := "Session"

/-- The files of a fresh project. -/
def freshFiles : Files := .bare base.names

/-- A session on a scene, with an empty registry for it. -/
def State.start (f : Forest) (s : SceneId) (reporter : Reporter) : State where
  forest := f
  scene := s
  registries := [⟨.ofScene f s, none⟩]
  registry := 0
  namers := []
  namer := none
  indexes := .empty
  caches := []
  watchers := []
  told := f.changes.length
  listeners := .empty
  settings := .default base
  files := freshFiles
  baseline := freshFiles
  now := noon
  library := ⟨defaultScene, none⟩
  reporter
  found := []
  fired := []
  notified := []

/-- Steps run on the state and keep what they did if they fail. -/
abbrev Run (α : Type) := ExceptT Failure (StateM State) α

namespace Run

def fail {α : Type} (e : Failure) : Run α := throw e

def say (es : List Event) : Run Unit :=
  modify fun s =>
    { s with
      reporter := s.reporter.hearAll es
      found := s.found ++ es.filterMap fun e =>
        match e with
        | .found d => some d
        | _ => none }

def report (ds : List Diagnostic) : Run Unit := say (ds.map .found)

/-- Tells the watchers of all changes that they have not been told. -/
def notify : Run Unit :=
  modify fun s =>
    let fresh := (s.forest.changes.take (s.forest.changes.length - s.told)).reverse
    { s with
      told := s.forest.changes.length
      notified := s.notified ++ fresh.flatMap fun c =>
        (s.watchers.filter fun w => w.1 == c.scene).map fun w => (w.2, c.node) }

def forest : Run Forest := return (← get).forest

def setForest (f : Forest) : Run Unit := modify fun s => { s with forest := f }

def edit (g : Forest → Forest) : Run Unit := modify fun s => { s with forest := g s.forest }

/-- The node of a handle, if it means one. -/
def node? (h : Handle) : Run (Option Key) := do
  let s ← get
  match h with
  | .null => return none
  | .path p => return s.forest.findByPath? s.scene p
  | .key k => if (s.forest.node? k).isSome then return some k else throw .unknownNode

def node (h : Handle) : Run Key := do
  match ← node? h with
  | some k => return k
  | none => throw .noAttribute

def capability (label : String) : Run Capability :=
  match Capability.ofLabel? label with
  | some c => return c
  | none => throw (.value (.unknownCapability (Text.quoted label)))

def capability? : Option String → Run (Option Capability)
  | some label => return some (← capability label)
  | none => return none

def decider? : Option String → Run (Option Decider)
  | some label =>
    match WriteDecision.ofLabel? label with
    | some d => return some (.always d)
    | none => throw (.value (.unknownDecision (Text.quoted label)))
  | none => return none

/-! ### Parts of the state -/

def slotAt (i : Nat) : Run RegistrySlot := do
  let s ← get
  return (s.registries[i]?).getD ⟨.blank s.forest, none⟩

def slot : Run RegistrySlot := do slotAt (← get).registry

def registry : Run Registry := return (← slot).registry

def setSlot (i : Nat) (slot : RegistrySlot) : Run Unit :=
  modify fun s => { s with registries := s.registries.set i slot }

/-- Starts over with another registry; who holds the old one keeps it. -/
def replaceRegistry (g : Registry) : Run Unit :=
  modify fun s =>
    { s with registries := s.registries ++ [⟨g, none⟩], registry := s.registries.length }

/-- Runs a registry operation on one of the registries. -/
def onRegistry {α : Type} (i : Nat) (act : Workspace → Workspace × α) : Run α := do
  let slot ← slotAt i
  let s ← get
  let namer := slot.namer.bind fun n => s.namers[n]?
  let (w, a) := act ⟨s.forest, slot.registry, namer, []⟩
  setForest w.forest
  match w.namer, slot.namer with
  | some z, some n =>
    modify fun s => { s with namers := s.namers.set n z }
    setSlot i { slot with registry := w.registry }
  | some z, none =>
    modify fun s => { s with namers := s.namers ++ [z] }
    setSlot i ⟨w.registry, some s.namers.length⟩
  | none, _ => setSlot i { slot with registry := w.registry }
  say w.events
  return a

def withRegistry {α : Type} (act : Workspace → Workspace × α) : Run α := do
  onRegistry (← get).registry act

def tryRegistry {α : Type} (act : Workspace → Workspace × Except Failure α) : Run α := do
  ofExcept (← withRegistry act)

/-- The number of the session's standardizer, which is made when it is first needed. -/
def namer : Run Nat := do
  let s ← get
  match s.namer with
  | some n => return n
  | none =>
    set { s with namers := s.namers ++ [Standardizer.new true true], namer := some s.namers.length }
    return s.namers.length

def withNamer {α : Type} (act : Renaming → Renaming × α) : Run α := do
  let n ← namer
  let s ← get
  let (r, a) := act ⟨s.forest, (s.namers[n]?).getD (.new true true), [], none⟩
  set { s with forest := r.forest, namers := s.namers.set n r.namer }
  say r.events
  match r.fault with
  | some e => throw e
  | none => return a

def withDesk {α : Type} (act : Desk → Desk × Except Failure α) : Run α := do
  let s ← get
  let (d, r) := act ⟨s.files, [], s.now, []⟩
  set { s with files := d.files }
  say d.events
  ofExcept r

/-- The search index of a name, which is made for the current scene when it is first needed. -/
def indexSlot (id : String) : Run IndexSlot := do
  let s ← get
  match s.indexes.get? id with
  | some x => return x
  | none =>
    let x : IndexSlot := ⟨.new s.forest s.scene, s.caches.length⟩
    let cache := (PathCache.new s.forest).attach s.forest s.scene
    set { s with indexes := s.indexes.put id x, caches := s.caches ++ [cache] }
    return x

def withIndex {α : Type} (id : String) (act : SearchIndex → Forest → SearchIndex × α) : Run α := do
  let x ← indexSlot id
  let (index, a) := act x.index (← forest)
  modify fun s => { s with indexes := s.indexes.put id { x with index } }
  return a

def withCache {α : Type} (i : Nat) (act : PathCache → Forest → PathCache × α) : Run α := do
  let s ← get
  let (c, a) := act ((s.caches[i]?).getD (.new s.forest)) s.forest
  set { s with caches := s.caches.set i c }
  return a

def filePath (path : String) : DiskPath := base.child path

end Run

end SceneBindings.Session
