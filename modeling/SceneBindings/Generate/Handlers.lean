import SceneBindings.Emit.Handlers
import SceneBindings.Emit.HookScan
import SceneBindings.Generate.Library

/-!
Writing the handler units of a scene. The machine unit is replaced each time, and tells which hooks
came and went since the last one; the user unit is only ever created.
-/

namespace SceneBindings.Generate

variable [Yaml]

def libraryNeeded (scene : String) : Diagnostic :=
  .fault .precondition "The UI library has not been generated yet, generate it before the handlers"
    scene

/-- The scene of the registry, if its library is there. -/
def requireLibrary (g : Registry) (s : Settings) (d : Desk) : Desk × Except Failure String :=
  let scene := g.sceneName
  if scene.isEmpty || !isLibraryThere s d scene then
    (d.say (.found (libraryNeeded scene)), .error (.libraryMissing scene))
  else (d, .ok scene)

/-- The hooks that a unit declares, or nothing if there is no unit. -/
def previousHooks (d : Desk) (path : DiskPath) : Desk × Option (List String) :=
  if !d.files.exists? path then (d, none)
  else
    match d.files.read path with
    | .ok c => (d, some (HookScan.names c.lines))
    | .error e =>
      (d.print ("⚠️  Could not read " ++ path.text ++ ": " ++ e.message path.text), some [])

structure HandlersDone where
  machine : DiskPath
  user : DiskPath
  userCreated : Bool
  diff : SignatureDiff

/-- The class of the first group that has a panel. -/
def examplePanel? (groups : List PanelGroup) : Option String :=
  (groups.find? fun g => g.panel.isSome).map (·.className)

/-- Creates the user unit unless it is there. -/
def createUser (d : Desk) (path : DiskPath) (text : String) : Desk × Except Failure Bool :=
  if d.files.exists? path then
    (d.print ("⏭️  User file already exists, skipping: " ++ path.text), .ok false)
  else
    match d.files.write path (.text text) with
    | .error e => (d, .error e)
    | .ok files => (Desk.print { d with files } ("✅ Generated " ++ path.text), .ok true)

/-- Replaces the machine unit by one for the current hooks. -/
def replaceMachine (d : Desk) (path : DiskPath) (text : String) (diff : SignatureDiff) :
    Desk × Except Failure Unit :=
  match d.store path (.text text) with
  | (d, .error e) => (d, .error e)
  | (d, .ok ()) =>
    let d := d.print ("✅ Generated " ++ path.text)
    (if diff.hasChanges then
      d.print ("⚠️  " ++ toString diff.added.length ++ " hooks added, " ++
        toString diff.removed.length ++ " removed, see migration hints")
    else d, .ok ())

def handlers (f : Forest) (g : Registry) (s : Settings) (d : Desk) :
    Desk × Except Failure HandlersDone :=
  match requireLibrary g s d with
  | (d, .error e) => (d, .error e)
  | (d, .ok scene) =>
    let d := d.print ("🔧 Generating UI handlers for " ++ scene ++ "...")
    let className := s.handlerClass scene
    let (groups, ds) := PanelGroup.build f g
    let (signatures, es) := Signature.collect groups
    let d := (d.reportAll ds).reportAll es
    let (d, previous) := previousHooks d (s.machinePath scene)
    let diff :=
      match previous with
      | some names => SignatureDiff.between names (signatures.map (·.name))
      | none => .empty
    let text := Emit.machineText scene className (s.libraryRelative scene s.handlersDir) signatures
      (some diff) (stampOf s d)
    match replaceMachine d (s.machinePath scene) text diff with
    | (d, .error e) => (d, .error e)
    | (d, .ok ()) =>
      match createUser d (s.userPath scene)
          (Emit.userText scene className signatures (examplePanel? groups)) with
      | (d, .error e) => (d, .error e)
      | (d, .ok created) => (d, .ok ⟨s.machinePath scene, s.userPath scene, created, diff⟩)

end SceneBindings.Generate
