import SceneBindings.Files.Writing
import SceneBindings.Registry.Workspace

/-!
The steps of a session: edits of a scene, registry and naming operations, searches, generated units
and the use of a library, in any order.
-/

namespace SceneBindings.Session

/-- A node as a step names it: by key, by its path in the current scene, or not at all. -/
inductive Handle where
  | key (k : Key)
  | path (path : String)
  | null

/-- A component of a node. -/
structure Target where
  node : Handle
  component : String

inductive SceneStep where
  | makeNode (name : String) (components : List Value) (active : Bool) (parent : Handle)
      (root : Bool)
  | addComponent (node : Handle) (spec : Value)
  | hasComponent (node : Handle) (type : String)
  | setParent (node parent : Handle)
  | addRoot (node : Handle)
  | rename (node : Handle) (name : String)
  | destroy (node : Handle)
  | setActive (node : Handle) (active : Bool)
  | node (node : Handle)
  | walk
  | subtree (node : Handle)
  | findByPath (path : String)
  | findByName (name : String)
  | findByKey (key : Value)
  | child (node : Handle) (name : String)
  | find (node : Handle) (path : String)
  | relativePath (node descendant : Handle)
  | describe
  | capabilities
  | save (path : String)
  | load (path : String)
  | new (data : Value)
  | subscribe (id : String)
  | unsubscribe (id : String)

inductive ComponentStep where
  | state (target : Target)
  | attr (target : Target) (name : String)
  | call (target : Target) (method : String) (args : List Value)
  | unlisten (target : Target) (event id : String)
  | unlistenAll (target : Target) (event : String)
  | invoke (target : Target) (event : String) (args : List Value)

/-- An element asked for by a value of any kind, and whether the value means a key. -/
structure Asked where
  key : Value
  isKey : Bool

inductive RegistryStep where
  | new (withScene : Bool)
  | useStandardizer (on : Bool)
  | add (node : Handle) (standardize : Option Bool) (probe : Option String)
  | addMany (nodes : List Handle) (probe : Option String)
  | remove (key : Value)
  | contains (path : Option String) (key : Value)
  | getReference (path : String)
  | lookup (key : Value) (capability : Option String)
  | lookupKey (key : Value)
  | categories
  | category (name : String)
  | references
  | duplicateNames
  | size
  | has (path : String)
  | getComponent (asked : Asked) (type : String)
  | getPanel (asked : Asked)
  | setPanelActive (asked : Asked) (isActive deactivateOthers keepLast : Bool)
  | togglePanel (key : Value)
  | isPanelVisible (key : Value)
  | activate (node : Handle) (exclusive keepLast : Bool)
  | deactivate (node : Handle)
  | panels
  | bindScene
  | missing
  | repair (withScene : Bool)
  | removeMissing
  | refreshPaths
  | clearPathCache
  | dispose
  | document
  | loadDocument (data : Value)
  | save (path : String)
  | load (path : String)
  | setReference (path : String) (newPath newName : Option String)

inductive NamingStep where
  | new (parts respect : Bool)
  | proposedName (node : Handle) (force : Bool)
  | standardize (node : Handle) (force : Bool)
  | standardizeScene (force : Bool)
  | standardizeParts (node : Handle) (capability : Option String)
  | firstName (node : Handle)
  | restore (node : Handle)
  | restoreAll
  | renamedCount
  | issues

inductive DebounceAction where
  | submit (query : String)
  | cancel
  | wait
  | submitWhileWaiting (query : String)

inductive SearchStep where
  | new (id : String) (share : Option String)
  | query (id : String) (query : Option String)
  | refresh (id : String) (nodes : Option (List Handle))
  | matches (id : String) (node : Handle)
  | visible (id : String)
  | dump (id : String)
  | path (id : String) (node : Handle)
  | cached (id : String) (node : Handle)
  | dispose (id : String)
  | debounce (id : String) (actions : List DebounceAction)

inductive UnitStep where
  | settings (data : Value)
  | clock (now : Timestamp)
  | groups
  | signatures
  | libraryText (scene : Option String) (stamp : Bool)
  | writeLibrary (decide : Option String)
  | isLibraryThere (scene : String)
  | handlers
  | panelHandlers (decide : Option String) (panels : Option (List String))
  | putFile (path : String) (content : Option FileContent)
  | writeUnit (path content : String) (decide : Option String)
  | readSignatures (path : String)
  | loadMissing (anchor relative : String)

inductive BindingStep where
  | new (scene : String)
  | install (withRegistry : Bool)
  | reset
  | isInitialized
  | get (path type : String)
  | setPanel (path : String) (isActive deactivateOthers keepLast : Bool)
  | toggle (path : String)
  | isVisible (path : String)
  | accessor (path type : String)
  | visibility (path : String)

inductive Step where
  | scene (step : SceneStep)
  | component (step : ComponentStep)
  /-- Adds a listener. What a listener does when it is called is settled when it is first added. -/
  | listen (target : Target) (event id : String) (andThen : Option Step)
  | registry (step : RegistryStep)
  | naming (step : NamingStep)
  | search (step : SearchStep)
  | units (step : UnitStep)
  | binding (step : BindingStep)
  | summary
  | clearDiagnostics

/-- What a step answers. -/
inductive Answer where
  | value (v : Value)
  | node (k : Key)
  | event (name : String)
  | list (xs : List Answer)
  | object (fields : List (String × Answer))

namespace Answer

def null : Answer := value .null
def text (s : String) : Answer := value (.text s)
def bool (b : Bool) : Answer := value (.bool b)
def count (n : Nat) : Answer := value (.int n)
def texts (ss : List String) : Answer := list (ss.map text)

def ofOption {α : Type} (f : α → Answer) : Option α → Answer
  | some a => f a
  | none => null

end Answer

end SceneBindings.Session
