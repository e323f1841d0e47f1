import SceneBindings.Emit.Lines
import SceneBindings.Emit.Signature
import SceneBindings.Text.Quoted

/-!
The handler units of a scene. The machine unit wires listeners and declares empty hooks, and is made
anew each time; the user unit derives from it and is made once.
-/

namespace SceneBindings.Emit

open Text

def handlerRule : String := "# ---------------------------------------------------"

def hintLines (d : SignatureDiff) (userFile : String) : List String :=
  ["# ⚠️ MIGRATION HINTS ⚠️", "# UI elements have changed since last generation:"] ++
  linesIf (!d.added.isEmpty)
    (["#", "# ADDED - Implement these hooks in " ++ userFile ++ ":"] ++
      d.added.map fun n => "#   - " ++ n ++ "()") ++
  linesIf (!d.removed.isEmpty)
    (["#", "# REMOVED - These hooks are no longer called (safe to delete from " ++ userFile ++
        "):"] ++ d.removed.map fun n => "#   - " ++ n ++ "()") ++
  [handlerRule]

/-- The method that wires the hooks of a role. -/
def setupMethod (c : Capability) : String :=
  match c.hook? with
  | some h => h.setup
  | none => ""

def wireLine (method module : String) (s : Signature) : String :=
  "        " ++ module ++ "." ++ s.accessor ++ "." ++ s.hook.event ++ "." ++ method ++ "(self." ++
    s.name ++ ")"

def addLine : String → Signature → String := wireLine "add_listener"

def removeLine : String → Signature → String := wireLine "remove_listener"

def ofRole (c : Capability) (ss : List Signature) : List Signature :=
  ss.filter fun s => s.capability == c

def setupLines (module : String) (ss : List Signature) (c : Capability) : List String :=
  let wired := ofRole c ss
  ("    def " ++ setupMethod c ++ "(self):") ::
    (if wired.isEmpty then ["        pass"] else wired.map (addLine module)) ++ [""]

def defLine (s : Signature) : String := "    def " ++ s.name ++ "(" ++ s.parameters ++ "):"

def emptyHook (added : List String) (userFile : String) (s : Signature) : List String :=
  linesIf (added.contains s.name) ["    # ✨ NEW - Implement this in " ++ userFile] ++
    [defLine s, "        pass", ""]

def machineHeader (scene className : String) (stamp : Option String) : List String :=
  [handlerRule, "# AUTO-GENERATED CODE - DO NOT MODIFY", "# Scene: " ++ Name.sanitize scene] ++
  stampLine stamp ++
  ["#",
    "# This file is regenerated whenever the handlers are updated.",
    "# All custom code belongs in " ++ className ++ ".py",
    handlerRule]

def machineOpening (scene className library : String) : List String :=
  let module := Name.sanitize scene
  ["\"\"\"Generated listener wiring for " ++ scene ++ ".\"\"\"",
    "",
    "from flowui.core.runtime import load_generated_unit",
    "",
    module ++ " = load_generated_unit(__file__, " ++ quoted library ++ ")",
    "",
    "",
    "class " ++ className ++ "Base:",
    "    \"\"\"Handles UI interactions for " ++ scene ++ ".",
    "",
    "    Subclass this in " ++ className ++ ".py and override the on_* hooks.",
    "    \"\"\"",
    "",
    "    def __init__(self, registry):",
    "        self.registry = registry",
    "        self.is_initialized = False",
    "        self._listeners_setup = False",
    "",
    "    # region Initialization",
    "",
    "    def initialize(self):",
    "        if self.is_initialized:",
    "            return",
    "        " ++ module ++ ".UI.initialize(self.registry)",
    "        self.initialize_ui()",
    "        self.setup_listeners()",
    "        self.is_initialized = True",
    "        print(f\"[\x7btype(self).__name__\x7d] Initialized\")",
    "",
    "    def cleanup(self):",
    "        if not self.is_initialized:",
    "            return",
    "        self.cleanup_listeners()",
    "        self.is_initialized = False",
    "        print(f\"[\x7btype(self).__name__\x7d] Cleaned up\")",
    "",
    "    def initialize_ui(self):",
    "        \"\"\"Set initial UI state (show/hide panels, set text, ...).\"\"\"",
    "",
    "    # endregion",
    ""]

def setupOpening : List String :=
  ["    # region Listener setup",
    "",
    "    def setup_listeners(self):",
    "        if self._listeners_setup:",
    "            return"]

def callSetup (c : Capability) : String := "        self." ++ setupMethod c ++ "()"

def setupClosing : List String := ["        self._listeners_setup = True", ""]

def cleanupOpening : List String :=
  ["    def cleanup_listeners(self):",
    "        if not self._listeners_setup:",
    "            return"]

/-- The text of the machine unit. Hooks that were added since the last time are marked. -/
def machineText (scene className library : String) (ss : List Signature)
    (diff : Option SignatureDiff) (stamp : Option String) : String :=
  let module := Name.sanitize scene
  let userFile := className ++ ".py"
  let d := diff.getD .empty
  unlines (machineHeader scene className stamp ++
    linesIf d.hasChanges (hintLines d userFile) ++
    machineOpening scene className library ++
    setupOpening ++ Capability.firing.map callSetup ++ setupClosing ++
    Capability.firing.flatMap (setupLines module ss) ++
    cleanupOpening ++ ss.map (removeLine module) ++
    ["        self.cleanup_custom_listeners()",
      "        self._listeners_setup = False",
      "",
      "    def cleanup_custom_listeners(self):",
      "        \"\"\"Remove listeners added by hand in initialize_ui().\"\"\"",
      "",
      "    # endregion",
      "",
      "    # region Hooks",
      ""] ++
    ss.flatMap (emptyHook d.added userFile) ++
    ["    # endregion"])

/-- What the stub of a hook prints. -/
def stubLine (s : Signature) : String :=
  match s.hook.argument with
  | some (name, _) =>
    "        print(f\"" ++ s.element ++ " " ++ s.hook.verb ++ " \x7b" ++ name ++ "\x7d\")"
  | none => "        print(\"" ++ s.element ++ " " ++ s.hook.verb ++ "\")"

def stubHook (s : Signature) : List String := [defLine s, stubLine s, ""]

/-- The text of the user unit; the example shows a panel. -/
def userText (scene className : String) (ss : List Signature) (example? : Option String) :
    String :=
  let module := Name.sanitize scene
  unlines (
    [handlerRule,
      "# USER CODE FILE",
      "# Handler for: " ++ module,
      "#",
      "# This file is for your custom UI logic and event implementations.",
      "# It is never overwritten by the code generator.",
      handlerRule,
      "from flowui.core.runtime import load_generated_unit",
      "",
      "_generated = load_generated_unit(__file__, " ++ quoted (className ++ ".g.py") ++ ")",
      module ++ " = _generated." ++ module,
      "",
      "",
      "class " ++ className ++ "(_generated." ++ className ++ "Base):",
      "",
      "    def initialize_ui(self):",
      "        # Set initial UI states here",
      "        # Example: " ++ module ++ ".UI." ++
        ((example?.filter fun e => !e.isEmpty).getD "MainMenu") ++ ".show()",
      "        pass",
      ""] ++
    ss.flatMap stubHook ++
    ["    def cleanup_custom_listeners(self):",
      "        pass"])

end SceneBindings.Emit
