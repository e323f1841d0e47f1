import SceneBindings.Number.Binary64
import SceneBindings.Text.Quoted
import SceneBindings.Validation.Issue

/-!
Reasons why an operation stops.
-/

namespace SceneBindings

/-- A value of the right kind that cannot be used. -/
inductive ValueFault where
  | unknownComponent (name : String)
  | unknownField (component field : String)
  | notBelow (descendant ancestor : String)
  | unknownCapability (label : String)
  | unknownDecision (label : String)
  | unreadableNumber (text : String)
  | noRegistry
  | groupWithoutPanel (key : String)
  | namelessPath (path : String)
  deriving DecidableEq, Repr

/-- Why a stored document could not be read. -/
inductive ReadFault where
  /-- It is not written in the format of documents. -/
  | malformed
  /-- It holds no mapping. -/
  | notMapping
  | issues (issues : List Issue)
  deriving DecidableEq, Repr

/-- Why a file could not be opened. -/
inductive OpenFault where
  | missing
  | isDirectory
  | notDirectory
  deriving DecidableEq, Repr

/-- What is wrong with the files that describe a project. -/
inductive ConfigFault where
  | scene (issues : List Issue)
  | sceneNode (root : String) (fault : ValueFault)
  | sceneFile (path : String) (fault : OpenFault)
  | sceneFormat (path : String)
  | registry (path : String) (fault : ReadFault)
  | noSettings (path : String)
  | settingsFormat (path : String)
  | settingsNotMapping (path : String)
  | settings (path : String) (issues : List Issue)
  deriving DecidableEq, Repr

inductive Failure where
  | invalid (issues : List Issue)
  | config (fault : ConfigFault)
  | unboundRegistry
  | libraryMissing (scene : String)
  | unitMissing (path : String)
  | conflict (path : String)
  | libraryUnused (scene : String)
  | value (fault : ValueFault)
  | optionOutOfRange (index : String)
  /-- A role that has no entry in a table of hooks. -/
  | noHook (label : String)
  | noEvent (label : String)
  | noComponent (label : String)
  | wrongKind
  /-- An integer too large to be read as a float. -/
  | tooLarge
  | noAttribute
  | openFile (fault : OpenFault)
  | fileInTheWay
  | noAnswer
  | tooDeep
  | unknownNode
  deriving DecidableEq, Repr

def ValueFault.message : ValueFault → String
  | unknownComponent name => "Unknown component type '" ++ name ++ "'"
  | unknownField component field => component ++ " has no field '" ++ field ++ "'"
  | notBelow descendant ancestor => "'" ++ descendant ++ "' is not below '" ++ ancestor ++ "'"
  | unknownCapability label => label ++ " is not a valid Capability"
  | unknownDecision label => label ++ " is not a valid WriteDecision"
  | unreadableNumber text => "could not convert string to float: " ++ Text.quoted text
  | noRegistry => "UI.initialize() needs a registry"
  | groupWithoutPanel key => "Group '" ++ key ++ "' has no panel reference"
  | namelessPath path => "PosixPath(" ++ Text.quoted path ++ ") has an empty name"

def OpenFault.message (path : String) : OpenFault → String
  | missing => "[Errno 2] No such file or directory: " ++ Text.quoted path
  | isDirectory => "[Errno 21] Is a directory: " ++ Text.quoted path
  | notDirectory => "[Errno 20] Not a directory: " ++ Text.quoted path

def ConfigFault.message : ConfigFault → String
  | scene _ => "Invalid scene description"
  | sceneNode root fault => "Invalid node under '" ++ root ++ "': " ++ fault.message
  | sceneFile path fault => "Could not read scene file " ++ path ++ ": " ++ fault.message path
  | sceneFormat path => "Could not parse scene file " ++ path
  | registry path _ => "Could not load registry " ++ path
  | noSettings path => "Config file not found: " ++ path
  | settingsFormat path => "Could not parse " ++ path
  | settingsNotMapping path => path ++ " must contain a mapping"
  | settings path _ => "Invalid settings in " ++ path

/-- The issues behind a fault of a project's files. -/
def ConfigFault.issues? : ConfigFault → Option (List Issue)
  | scene is => some is
  | registry _ (.issues is) => some is
  | settings _ is => some is
  | _ => none

/-- The heading of a report of issues. -/
def issueHeading (model : String) (is : List Issue) : String :=
  if is.length = 1 then "1 validation error for " ++ model
  else toString is.length ++ " validation errors for " ++ model

/-- What the command line shows of a fault: its message and the head of the wrapped report. -/
def ConfigFault.report (fault : ConfigFault) : String :=
  match fault with
  | scene is => fault.message ++ ": " ++ issueHeading "SceneSpec" is
  | registry _ (.issues is) => fault.message ++ ": " ++ issueHeading "RegistryDocument" is
  | settings _ is => fault.message ++ ": " ++ issueHeading "FlowUISettings" is
  | registry _ _ => fault.message ++ ": "
  | sceneFormat _ => fault.message ++ ": "
  | settingsFormat _ => fault.message ++ ": "
  | _ => fault.message

/-- The text of a failure, for the kinds of failure that have one. -/
def Failure.message? : Failure → Option String
  | config fault => some fault.message
  | unboundRegistry => some "Registry is not bound to a scene, nothing to name the library after"
  | libraryMissing scene => some ("UI library for scene '" ++ scene ++ "' has not been generated")
  | unitMissing path => some ("Generated unit not found: " ++ path)
  | conflict path =>
    some ("File already exists and no overwrite decision was given: " ++ path)
  | libraryUnused scene =>
    some ("UI library for scene '" ++ scene ++ "' used before UI.initialize(registry)")
  | value fault => some fault.message
  | optionOutOfRange index => some ("Dropdown option " ++ index ++ " out of range")
  | noHook label => some label
  | noComponent label => some label
  | noEvent label => some (label ++ " does not fire events")
  | _ => none

def Failure.issues? : Failure → Option (List Issue)
  | invalid is => some is
  | config fault => fault.issues?
  | _ => none

end SceneBindings
