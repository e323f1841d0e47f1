import SceneBindings.Generate.PanelHandlers
import SceneBindings.Session.RegistrySteps

/-!
Steps that generate units and work on files.
-/

namespace SceneBindings.Session

open Run

variable [Yaml] [Validator]

def groupAnswer (g : PanelGroup) : Answer :=
  .object [
    ("key", .text g.key),
    ("class_name", .text g.className),
    ("panel", .ofOption (fun p => .text p.path) g.panel),
    ("elements", .list (g.elements.map fun e => .texts [e.property, e.reference.path, e.accessor]))]

def signatureAnswer (s : Signature) : Answer :=
  .texts [s.name, s.capability.label, s.element, s.accessor, s.parameters]

def pathAnswer (p : DiskPath) : Answer := .text p.text

def currentGroups : Run (List PanelGroup) := do
  let (groups, ds) := PanelGroup.build (← forest) (← registry)
  report ds
  return groups

/-- Settings for the project's directory from the fields of a document. -/
def readSettings (data : Value) : Except Failure Settings :=
  match data with
  | .object fields =>
    if (Value.field? "base_dir" fields).isSome then .error .wrongKind
    else
      match Settings.read base fields with
      | .ok s => .ok s
      | .bad issues => .error (.invalid issues)
  | _ => .error .wrongKind

/-- Puts a file where a project has it, with the directories above it, or takes it away. -/
def putFile (files : Files) (p : DiskPath) : Option FileContent → Files
  | none => files.erase p
  | some c =>
    let (files, _) := files.makeDirectory p.parent
    match files.place p with
    | .ok x => files.put x c
    | .error _ => files

def runUnits : UnitStep → Run Answer
  | .settings data => do
    let settings ← ofExcept (readSettings data)
    modify fun s => { s with settings }
    return .null
  | .clock now => do
    modify fun s => { s with now }
    return .null
  | .groups => return .list ((← currentGroups).map groupAnswer)
  | .signatures => do
    let (signatures, ds) := Signature.collect (← currentGroups)
    report ds
    return .list (signatures.map signatureAnswer)
  | .libraryText scene stamp => do
    let groups ← currentGroups
    let scene := scene.getD (← registry).sceneName
    let now := (← get).now
    return .text (Emit.libraryText scene groups (if stamp then some now.text else none))
  | .writeLibrary decide => do
    let decider ← decider? decide
    let f ← forest
    let g ← registry
    let settings := (← get).settings
    return .ofOption pathAnswer (← withDesk fun d => Generate.library f g settings d decider)
  | .isLibraryThere scene => do
    let s ← get
    return .bool (s.files.exists? (s.settings.libraryPath scene))
  | .handlers => do
    let f ← forest
    let g ← registry
    let settings := (← get).settings
    let done ← withDesk fun d => Generate.handlers f g settings d
    return .object [("machine", pathAnswer done.machine), ("user", pathAnswer done.user),
      ("user_created", .bool done.userCreated), ("added", .texts done.diff.added),
      ("removed", .texts done.diff.removed)]
  | .panelHandlers decide panels => do
    let decider ← decider? decide
    let f ← forest
    let g ← registry
    let settings := (← get).settings
    let done ← withDesk fun d => Generate.panelHandlers f g settings d decider panels
    return .object [("written", .list (done.written.map pathAnswer)),
      ("skipped", .list (done.skipped.map pathAnswer))]
  | .putFile path content => do
    modify fun s => { s with
      files := putFile s.files (filePath path) content
      baseline := putFile s.baseline (filePath path) content }
    return .null
  | .writeUnit path content decide => do
    let decider ← decider? decide
    return .ofOption pathAnswer
      (← withDesk fun d => d.writeUnit (filePath path) content decider)
  | .readSignatures path => do
    let names ← withDesk fun d =>
      let (d, names) := Generate.previousHooks d (filePath path)
      (d, .ok names)
    return .ofOption .texts names
  | .loadMissing anchor relative =>
    throw (.unitMissing (((filePath anchor).parent.child relative).normalize).text)

end SceneBindings.Session
