import SceneBindings.Emit.PanelHandler
import SceneBindings.Emit.HookScan
import SceneBindings.Files.Documents
import SceneBindings.Validation.Lax
import SceneBindings.Value.Flow

/-!
Single questions about names, roles, documents and units, which need no scene.
-/

namespace SceneBindings.Inquiry

variable [Yaml] [Validator]

/-- The role that a value names. -/
def capability (v : Value) : Except Failure Capability :=
  match v with
  | .text s =>
    match Capability.ofLabel? s with
    | some c => .ok c
    | none => .error (.value (.unknownCapability v.spelled))
  | _ => .error (.value (.unknownCapability v.spelled))

/-- The role that a value names, or the unknown one. -/
def capabilityOrUnknown (v : Value) : Capability :=
  match capability v with
  | .ok c => c
  | .error _ => .unknown

def hookArity (c : Capability) : Except Failure Nat :=
  match c.hookArity? with
  | some n => .ok n
  | none => .error (.noEvent c.label)

def hookName (c : Capability) (name : String) : Except Failure String :=
  match c.hook? with
  | some h => .ok (Signature.hookName h name)
  | none => .error (.noHook c.label)

/-- A forest of one described node with some children, and the node. -/
def singleNode (name : String) (specs : List Value) (children : Nat) :
    Except Failure (Forest × Key) :=
  match specs.mapM Component.ofDescription with
  | .error e => .error e
  | .ok cs =>
    let made := Forest.empty.create (Node.new name (cs.foldl Forest.putComponent []) true)
    let child (f : Forest) : Forest :=
      let c := f.create (Node.new "Child" [] true)
      c.1.setParent c.2 (some made.2)
    .ok ((List.range children).foldl (fun f _ => child f) made.1, made.2)

/-- The role of a node with some components and children. -/
def role (name : String) (specs : List Value) (children : Nat) : Except Failure Capability :=
  (singleNode name specs children).map fun (f, k) => f.classify k

/-- The type that an accessor fetches, for a node with some components or for none. -/
def accessorType (c : Capability) : Option (List Value) → Except Failure String
  | none => .ok (Forest.empty.accessorTypeOf c none)
  | some specs => (singleNode "Node" specs 0).map fun (f, k) => f.accessorTypeOf c (some k)

/-- What is loaded from a described scene: the forest, the scene, and what was found. -/
def scene (v : Value) : Except Failure (Forest × SceneId × List Event) :=
  let loaded := Forest.empty.loadScene v
  loaded.result.map fun s => (loaded.forest, s, loaded.events)

/-- The fields of a value that must be a mapping. -/
def fields (v : Value) : Except Failure (List (String × Value)) :=
  match v with
  | .object fs => .ok fs
  | _ => .error .wrongKind

def checked {α : Type} : Checked α → Except Failure α
  | .ok a => .ok a
  | .bad issues => .error (.invalid issues)

/-- The registry that a document describes. -/
def registry (v : Value) : Except Failure Registry := Registry.ofValue .empty v

def diagnostic (v : Value) : Except Failure Diagnostic := do
  checked (Diagnostic.read (← fields v))

/-- The settings that a file in a directory gives. -/
def settings (base : DiskPath) (content : Option FileContent) : Except Failure Settings :=
  let path := base.child Settings.fileName
  let files := Files.bare base.names
  let files :=
    match content with
    | some c => files.put path.names c
    | none => files
  files.readSettings base (some path.text)

/-- A row of a signature: hook name, role, element and accessor. -/
structure SignatureRow where
  name : String
  capability : Value
  element : String
  accessor : String

def signatureRole (r : SignatureRow) : Except Failure Capability :=
  checked ((Capability.read r.capability).within "capability")

def withHook (r : SignatureRow) (c : Capability) : Except Failure Signature :=
  match c.hook? with
  | some h => .ok ⟨r.name, c, h, r.element, r.accessor⟩
  | none => .error (.noHook c.label)

/-- The signatures of some rows. A role outside the closed set is found before a role without
hook. -/
def signatures (rows : List SignatureRow) : Except Failure (List Signature) := do
  let roles ← rows.mapM signatureRole
  (rows.zip roles).mapM fun p => withHook p.1 p.2

/-- The handler of a panel; a group may lack one. -/
def panelHandler (scene className library key : String) (panel : Option (String × String))
    (rows : List SignatureRow) (stamp : Option String) : Except Failure String := do
  let roles ← rows.mapM signatureRole
  match panel with
  | none => throw (.value (.groupWithoutPanel key))
  | some (name, path) =>
    let _ ← checked (StoredReference.mk name path .panel).validate
    let ss ← (rows.zip roles).mapM fun p => withHook p.1 p.2
    let group : PanelGroup := ⟨key, none, []⟩
    return Emit.panelHandlerText scene className group.className library
      ⟨name, path, .panel, .never⟩ ss stamp

end SceneBindings.Inquiry
