import SceneBindings.Files.Writing
import SceneBindings.Registry.Workspace
import SceneBindings.Scene.Loading
import SceneBindings.Settings

/-!
The stored documents of a project: its settings, its scene and its registry.
-/

namespace SceneBindings.Files

variable [Yaml] [Validator]

/-- The document of a scene file. -/
def readScene (fs : Files) (p : DiskPath) : Except Failure Value :=
  match fs.read p with
  | .error e => .error (.config (.sceneFile p.text e))
  | .ok c =>
    match c.document? with
    | some v => .ok v
    | none => .error (.config (.sceneFormat p.text))

/-- The registry that a file holds, with nothing bound, or an empty one if there is no file. -/
def readRegistry (fs : Files) (f : Forest) (p : DiskPath) : Except Failure Registry :=
  if !fs.exists? p then .ok (.blank f)
  else
    match fs.read p with
    | .error e => .error (.openFile e)
    | .ok c =>
      match c.document? with
      | none => .error (.config (.registry p.text .malformed))
      | some v =>
        match Forest.documentFields v with
        | .error _ => .error (.config (.registry p.text .notMapping))
        | .ok fields =>
          match RegistryDocument.read fields with
          | .bad issues => .error (.config (.registry p.text (.issues issues)))
          | .ok d => .ok (.ofDocument f d)

/-- The settings of a project: those of the given file, or of the usual one if it is there. -/
def readSettings (fs : Files) (base : DiskPath) (config : Option String) :
    Except Failure Settings :=
  let given := config.filter fun c => !c.isEmpty
  let shown := DiskPath.ofString (given.getD Settings.fileName)
  let path := base.join shown
  if !fs.exists? path then
    if given.isSome then .error (.config (.noSettings shown.text)) else .ok (.default base)
  else
    match fs.read path with
    | .error e => .error (.openFile e)
    | .ok c =>
      match c.document? with
      | none => .error (.config (.settingsFormat shown.text))
      | some v =>
        match Forest.documentFields v with
        | .error _ => .error (.config (.settingsNotMapping shown.text))
        | .ok fields =>
          match Settings.read path.normalize.parent fields with
          | .bad issues => .error (.config (.settings shown.text issues))
          | .ok s => .ok s

end SceneBindings.Files

namespace SceneBindings

/-- The stored form of a registry. -/
def Registry.document (g : Registry) : Except Failure Value :=
  match g.toDocument with
  | .ok d => .ok d.write
  | .error issues => .error (.invalid issues)

/-- Stores a document. The file is emptied before its content is known, so a document that cannot be
made leaves an empty file. -/
def Desk.storeDocument (d : Desk) (p : DiskPath) (content : Except Failure Value) :
    Desk × Except Failure Unit :=
  match d.store p (.text "") with
  | (d, .error e) => (d, .error e)
  | (d, .ok ()) =>
    match content with
    | .error e => (d, .error e)
    | .ok v => d.store p (.document v)

/-- Stores a registry whose document can be made. The directory comes first. -/
def Desk.storeRegistry (d : Desk) (p : DiskPath) (g : Registry) : Desk × Except Failure Unit :=
  match d.files.makeDirectory p.parent, g.document with
  | (files, .error e), _ => ({ d with files }, .error e)
  | (files, .ok ()), .error e => ({ d with files }, .error e)
  | (_, .ok ()), .ok v => d.store p (.document v)

end SceneBindings
