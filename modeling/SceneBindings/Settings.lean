import SceneBindings.Files.DiskPath
import SceneBindings.Naming.Name
import SceneBindings.Validation.Checked

/-!
The settings of a project. Relative paths are seen from the directory of the settings file.
-/

namespace SceneBindings

/-- Where units of one kind go and what their names begin with. -/
structure UnitSettings where
  output : String
  classPrefix : String
  deriving DecidableEq, Repr

structure NamingSettings where
  onAdd : Bool
  parts : Bool
  respectExisting : Bool
  deriving DecidableEq, Repr

structure Settings where
  sceneFile : String
  registryFile : String
  /-- Whether units say when they were made. -/
  stamp : Bool
  library : UnitSettings
  handlers : UnitSettings
  panelHandlers : UnitSettings
  naming : NamingSettings
  debounce : Binary64
  base : DiskPath
  deriving DecidableEq

namespace Settings

def fileName : String := "flowui.yaml"

def defaultLibrary : UnitSettings := ⟨"generated/ui", "UI_Library_"⟩
def defaultHandlers : UnitSettings := ⟨"generated/handlers", ""⟩
def defaultPanelHandlers : UnitSettings := ⟨"generated/handlers/panels", ""⟩
def defaultNaming : NamingSettings := ⟨true, true, true⟩
def defaultDebounce : Binary64 := .ofDecimal false 2 (-1)

def default (base : DiskPath) : Settings :=
  ⟨"scenes/sample_scene.yaml", ".flowui/registry.yaml", false, defaultLibrary, defaultHandlers,
    defaultPanelHandlers, defaultNaming, defaultDebounce, base⟩

/-- A text that is not blank, without the white space around it. -/
def readFilled [Validator] (v : Value) : Checked String :=
  ((Validator.readString v).check fun s =>
    if Name.isBlank s then some (.broken .blankSetting) else none).map Name.trim

def readUnit [Validator] (defaults : UnitSettings) (prefixReader : Value → Checked String)
    (fields : List (String × Value)) : Checked UnitSettings :=
  UnitSettings.mk <$> optional fields "output_path" defaults.output readFilled
    <*> optional fields "class_prefix" defaults.classPrefix prefixReader

def readNaming [Validator] (fields : List (String × Value)) : Checked NamingSettings :=
  NamingSettings.mk <$> optional fields "auto_standardize_on_add" true Validator.readBool
    <*> optional fields "standardize_child_elements" true Validator.readBool
    <*> optional fields "respect_existing_conventions" true Validator.readBool

/-- Zero or more; a non-number is neither that nor less. -/
def isDuration (x : Binary64) : Bool :=
  match x.place? with
  | some p => !p.lt (Binary64.placeInt 0)
  | none => false

def readDebounce [Validator] (v : Value) : Checked Binary64 :=
  (Validator.readFloat v).check fun x => if isDuration x then none else some .negative

def readSearch [Validator] (fields : List (String × Value)) : Checked Binary64 :=
  optional fields "debounce_seconds" defaultDebounce readDebounce

/-- The settings that the fields of a document give, seen from a directory. -/
def read [Validator] (base : DiskPath) (fields : List (String × Value)) : Checked Settings :=
  let d := default base
  (fun sceneFile registryFile stamp library handlers panelHandlers naming debounce =>
      ⟨sceneFile, registryFile, stamp, library, handlers, panelHandlers, naming, debounce, base⟩)
    <$> optional fields "scene_file" d.sceneFile Validator.readString
    <*> optional fields "registry_file" d.registryFile Validator.readString
    <*> optional fields "stamp_generated_files" d.stamp Validator.readBool
    <*> optional fields "library" d.library
      (Value.readRecord (readUnit defaultLibrary readFilled))
    <*> optional fields "handlers" d.handlers
      (Value.readRecord (readUnit defaultHandlers Validator.readString))
    <*> optional fields "panel_handlers" d.panelHandlers
      (Value.readRecord (readUnit defaultPanelHandlers Validator.readString))
    <*> optional fields "naming" d.naming (Value.readRecord readNaming)
    <*> optional fields "search" d.debounce (Value.readRecord readSearch)

def writeUnit (u : UnitSettings) : Value :=
  .object [("output_path", .text u.output), ("class_prefix", .text u.classPrefix)]

/-- All settings but the directory. -/
def write (s : Settings) : Value :=
  .object [("scene_file", .text s.sceneFile), ("registry_file", .text s.registryFile),
    ("stamp_generated_files", .bool s.stamp), ("library", writeUnit s.library),
    ("handlers", writeUnit s.handlers), ("panel_handlers", writeUnit s.panelHandlers),
    ("naming", .object [("auto_standardize_on_add", .bool s.naming.onAdd),
      ("standardize_child_elements", .bool s.naming.parts),
      ("respect_existing_conventions", .bool s.naming.respectExisting)]),
    ("search", .object [("debounce_seconds", .float s.debounce)])]

/-! ### Paths -/

def resolve (s : Settings) (path : String) : DiskPath := s.base.child path

def scenePath (s : Settings) : DiskPath := s.resolve s.sceneFile
def registryPath (s : Settings) : DiskPath := s.resolve s.registryFile
def libraryDir (s : Settings) : DiskPath := s.resolve s.library.output
def handlersDir (s : Settings) : DiskPath := s.resolve s.handlers.output
def panelHandlersDir (s : Settings) : DiskPath := s.resolve s.panelHandlers.output

def libraryPath (s : Settings) (scene : String) : DiskPath :=
  s.libraryDir.child (s.library.classPrefix ++ Name.sanitize scene ++ ".py")

/-- The class of a scene's handlers. -/
def handlerClass (s : Settings) (scene : String) : String :=
  s.handlers.classPrefix ++ Name.sanitize scene ++ "UIHandler"

def machinePath (s : Settings) (scene : String) : DiskPath :=
  s.handlersDir.child (s.handlerClass scene ++ ".g.py")

def userPath (s : Settings) (scene : String) : DiskPath :=
  s.handlersDir.child (s.handlerClass scene ++ ".py")

/-- The class of a panel's handlers. -/
def panelHandlerClass (s : Settings) (groupClass : String) : String :=
  s.panelHandlers.classPrefix ++ groupClass ++ "PanelHandler"

def panelHandlerPath (s : Settings) (groupClass : String) : DiskPath :=
  s.panelHandlersDir.child (s.panelHandlerClass groupClass ++ ".py")

/-- The library as a unit in another directory refers to it. -/
def libraryRelative (s : Settings) (scene : String) (start : DiskPath) : String :=
  ((s.libraryPath scene).relativeTo start).text

end Settings

end SceneBindings
