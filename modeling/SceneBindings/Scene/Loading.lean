import SceneBindings.Component.Description
import SceneBindings.Diagnostic
import SceneBindings.Forest.Basic
import SceneBindings.Scene.Description

/-!
Scenes from their descriptions and back. Nodes are made depth first, each before its children; the
parts of composite components are looked up once all nodes are there.
-/

namespace SceneBindings

/-- A component with the parts that it names by paths. -/
structure Pending where
  owner : Key
  component : Component
  /-- Whether a later component of the node has the same label, and so its place. -/
  superseded : Bool
  parts : List (String × Value)

namespace Forest

/-- The components that a list of entries describes, or the first failure among them. -/
def describedComponents : List Value → Except Failure (List (Component × Value))
  | [] => .ok []
  | v :: vs =>
    match Component.ofEntry v with
    | .error e => .error e
    | .ok c =>
      match describedComponents vs with
      | .error e => .error e
      | .ok cs => .ok ((c, v) :: cs)

/-- The parts named by a list of components of one owner. -/
def pendingOf (owner : Key) : List (Component × Value) → List Pending
  | [] => []
  | (c, v) :: cs =>
    ⟨owner, c, cs.any fun d => d.1.label.sameKey c.label, c.pendingParts v⟩ :: pendingOf owner cs

/-- What a partly built tree leaves: the forest so far, and the parts to look up. -/
structure Built where
  forest : Forest
  pending : List Pending

mutual

/-- Builds a node and all below it. The node hangs below `parent` once its own tree is complete. -/
def build (b : Built) : NodeSpec → Built × Except Failure Key
  | ⟨name, active, entries, children⟩ =>
    let made := b.forest.create (Node.new name [] active)
    match describedComponents entries with
    | .error e => ({ b with forest := made.1 }, .error e)
    | .ok cs =>
      let forest := cs.foldl (fun f c => f.addComponent made.2 c.1) made.1
      let b := buildAll ⟨forest, b.pending ++ pendingOf made.2 cs⟩ made.2 children
      (b.1, b.2.map fun _ => made.2)

def buildAll (b : Built) (parent : Key) : List NodeSpec → Built × Except Failure Unit
  | [] => (b, .ok ())
  | spec :: specs =>
    match build b spec with
    | (b, .error e) => (b, .error e)
    | (b, .ok k) => buildAll { b with forest := b.forest.setParent k (some parent) } parent specs

end

def buildRoots (b : Built) (s : SceneId) : List NodeSpec → Built × Except Failure Unit
  | [] => (b, .ok ())
  | spec :: specs =>
    match build b spec with
    | (b, .ok k) => buildRoots { b with forest := b.forest.addRoot s k } s specs
    | (b, .error (.value fault)) => (b, .error (.config (.sceneNode spec.name fault)))
    | (b, .error e) => (b, .error e)

/-- The name of a component's type in a message. -/
def shownType (f : Forest) (c : Component) : String :=
  match c.part? "type_name" with
  | some k => f.shownNode k
  | none => c.label.shown

/-- Looks up one part. A part that is not there is reported and stays unassigned. -/
def resolvePart (f : Forest) (owner : Key) (c : Component) (p : String × Value) :
    Except Failure (Component × List Event) :=
  match p.2 with
  | .text path =>
    match f.find? (c.base owner) path with
    | some k => .ok (c.setPart p.1 k, [])
    | none =>
      .ok (c, [.found (.warn .lookupMiss
        (f.shownType c ++ "." ++ p.1 ++ " points at missing node '" ++ path ++ "'")
        (f.fullPath (c.base owner)))])
  | _ => .error .noAttribute

/-- Looks up the parts of a component one by one. -/
def resolveParts (f : Forest) (owner : Key) (c : Component) (events : List Event) :
    List (String × Value) → Component × List Event × Except Failure Unit
  | [] => (c, events, .ok ())
  | p :: ps =>
    match f.resolvePart owner c p with
    | .ok (c, es) => f.resolveParts owner c (events ++ es) ps
    | .error e => (c, events, .error e)

/-- Looks up the parts of components. One that another one has taken the place of is forgotten. -/
def resolve (f : Forest) (events : List Event) :
    List Pending → Forest × List Event × Except Failure Unit
  | [] => (f, events, .ok ())
  | p :: ps =>
    let (c, events, r) := f.resolveParts p.owner p.component events p.parts
    let f := if p.superseded then f else f.modifyComponent p.owner p.component.label fun _ => c
    match r with
    | .ok () => f.resolve events ps
    | .error e => (f, events, .error e)

/-- What loading a scene leaves, and the scene if it was loaded. -/
structure Loaded where
  forest : Forest
  events : List Event
  result : Except Failure SceneId

/-- The fields of a stored document; a value that is not given counts as an empty one. -/
def documentFields (v : Value) : Except Failure (List (String × Value)) :=
  if v.isTruthy then
    match v with
    | .object fields => .ok fields
    | _ => .error .wrongKind
  else .ok []

def loadScene [Validator] (f : Forest) (v : Value) : Loaded :=
  match documentFields v with
  | .error e => ⟨f, [], .error e⟩
  | .ok fields =>
    match SceneSpec.read fields with
    | .bad issues => ⟨f, [], .error (.config (.scene issues))⟩
    | .ok spec =>
      let made := f.addScene spec.name
      match buildRoots ⟨made.1, []⟩ made.2 spec.roots with
      | (b, .error e) => ⟨b.forest, [], .error e⟩
      | (b, .ok ()) =>
        let (f, events, r) := b.forest.resolve [] b.pending
        ⟨f, events, r.map fun _ => made.2⟩

/-! ### Writing down -/

def writeParts (f : Forest) (k : Key) (c : Component) :
    List Value → Except Failure (List (String × Value))
  | [] => .ok []
  | .text part :: parts =>
    match c.target? k part with
    | .error e => .error e
    | .ok none => f.writeParts k c parts
    | .ok (some target) =>
      match f.relativePath (c.base k) target, f.writeParts k c parts with
      | .ok path, .ok fields => .ok ((part, .text path) :: fields)
      | .error e, _ => .error e
      | _, .error e => .error e
  | _ :: _ => .error .wrongKind

/-- The description of a component, always as an object. -/
def writeComponent (f : Forest) (k : Key) (c : Component) :
    Except Failure (List (String × Value)) :=
  if c.isDisabled "to_dict" then .error .wrongKind
  else
    -- a node tells no names and is no value that can be written down
    match c.part? "node_refs", c.partNames? with
    | none, some names =>
      match f.writeParts k c names with
      | .error e => .error e
      | .ok parts =>
        if c.isDisabled "state" || (c.part? "type_name").isSome then .error .wrongKind
        else
          (c.writeAttributes c.kind.saved).map fun fields =>
            (Table.ofList (("type", c.label) :: parts ++ fields)).entries
    | _, _ => .error .wrongKind

/-- A component without fields is written by its type alone. -/
def writeEntry (f : Forest) (k : Key) (c : Component) : Except Failure Value :=
  (f.writeComponent k c).map fun fields =>
    match fields with
    | [x] => x.2
    | _ => .object fields

def listField (name : String) (xs : List Value) : List (String × Value) :=
  if xs.isEmpty then [] else [(name, .list xs)]

/-- The description of a node and of all below it to a depth less than `n`. -/
def writeNodeTo (f : Forest) : Nat → Key → Except Failure Value
  | 0, _ => .ok (.object [])
  | n + 1, k =>
    let node := f.node k
    match node.components.mapM (f.writeEntry k) with
    | .error e => .error e
    | .ok components =>
      match node.children.mapM (f.writeNodeTo n) with
      | .error e => .error e
      | .ok children =>
        .ok (.object (("name", .text node.name) ::
          (if node.active then [] else [("active", .bool false)]) ++
          listField "components" components ++ listField "children" children))

def writeScene (f : Forest) (s : SceneId) : Except Failure Value :=
  ((f.roots s).mapM (f.writeNodeTo f.nodes.length)).map fun roots =>
    .object [("scene", .text (f.scene s).name), ("roots", .list roots)]

end Forest

end SceneBindings
