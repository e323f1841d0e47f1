import SceneBindings.Emit.Handlers

/-!
The handler unit of one panel: its listeners, hooks, and methods to show and hide it.
-/

namespace SceneBindings.Emit

open Text

def panelHeader (scene : String) (panel : Reference) (stamp : Option String) : List String :=
  [handlerRule, "# Generated by FlowUI", "# Scene: " ++ Name.sanitize scene,
    "# Panel: " ++ panel.name] ++
  stampLine stamp ++
  ["#",
    "# You can modify this file. It is only rewritten when you regenerate",
    "# the handler for this panel and choose to overwrite it.",
    handlerRule]

def panelOpening (scene className library ui : String) (panel : Reference) : List String :=
  let module := Name.sanitize scene
  ["\"\"\"Handles UI interactions for the " ++ panel.name ++ " panel of " ++ scene ++ ".\"\"\"",
    "",
    "from flowui.core.runtime import load_generated_unit",
    "",
    module ++ " = load_generated_unit(__file__, " ++ quoted library ++ ")",
    "",
    "PANEL_PATH = " ++ quoted panel.path,
    "",
    "",
    "class " ++ className ++ ":",
    "    \"\"\"Listeners, hooks and visibility of " ++ panel.name ++ "\"\"\"",
    "",
    "    def __init__(self, registry):",
    "        self.registry = registry",
    "        self.is_initialized = False",
    "        self._listeners_setup = False",
    "",
    "    @property",
    "    def is_panel_active(self) -> bool:",
    "        return " ++ ui ++ ".is_visible",
    "",
    "    # region Initialization",
    "",
    "    def initialize(self):",
    "        if self.is_initialized:",
    "            return",
    "        if PANEL_PATH not in self.registry:",
    "            print(" ++
      quoted ("[" ++ className ++ "] Panel '" ++ panel.name ++ "' is not registered") ++ ")",
    "            return",
    "        " ++ module ++ ".UI.initialize(self.registry)",
    "        self.initialize_ui()",
    "        self.setup_listeners()",
    "        self.is_initialized = True",
    "        print(\"[" ++ className ++ "] Initialized\")",
    "",
    "    def initialize_ui(self):",
    "        \"\"\"Set initial UI states here.\"\"\"",
    "",
    "    def cleanup(self):",
    "        if not self.is_initialized:",
    "            return",
    "        self.cleanup_listeners()",
    "        self.is_initialized = False",
    "",
    "    # endregion",
    "",
    "    # region Listener setup",
    ""]

def panelClosing (ui : String) : List String :=
  ["    # region Panel management",
    "",
    "    def show_panel(self, hide_others: bool = True):",
    "        " ++ ui ++ ".show(hide_others)",
    "",
    "    def hide_panel(self):",
    "        " ++ ui ++ ".hide()",
    "",
    "    def toggle_panel(self):",
    "        " ++ ui ++ ".toggle()",
    "",
    "    # endregion"]

/-- The text of the handler unit of a group with a panel. -/
def panelHandlerText (scene className groupClass library : String) (panel : Reference)
    (ss : List Signature) (stamp : Option String) : String :=
  let module := Name.sanitize scene
  let ui := module ++ ".UI." ++ groupClass
  let present := Capability.firing.filter fun c => !(ofRole c ss).isEmpty
  unlines (panelHeader scene panel stamp ++
    panelOpening scene className library ui panel ++
    linesIf ss.isEmpty ["    # No event-firing elements are registered under this panel"] ++
    ["    def setup_listeners(self):",
      "        if self._listeners_setup:",
      "            return"] ++
    present.map callSetup ++ setupClosing ++
    present.flatMap (setupLines module ss) ++
    cleanupOpening ++ ss.map (removeLine module) ++
    ["        self._listeners_setup = False", "", "    # endregion", ""] ++
    linesIf (!ss.isEmpty)
      (["    # region Hooks", ""] ++ ss.flatMap stubHook ++ ["    # endregion", ""]) ++
    panelClosing ui)

end SceneBindings.Emit
