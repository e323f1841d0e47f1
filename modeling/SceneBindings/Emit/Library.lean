import SceneBindings.Emit.Grouping
import SceneBindings.Emit.Lines
import SceneBindings.Text.Quoted

/-!
The library unit of a scene: a class for each group with an accessor for each element.
-/

namespace SceneBindings.Emit

open Text

def libraryRule : String := "# ========================================"

def panelLines (panel : Reference) : List String :=
  let path := quoted panel.path
  ["        PANEL_PATH = " ++ path,
    "        panel = ElementAccessor(_binding, PANEL_PATH, SceneNode)",
    "        is_visible = PanelVisibility(_binding, PANEL_PATH)",
    "",
    "        @staticmethod",
    "        def show(hide_others: bool = True, keep_last_panel: bool = False):",
    "            \"\"\"Show " ++ panel.name ++
      ", hiding other panels unless hide_others is False.\"\"\"",
    "            _binding.set_panel_active(" ++ path ++ ", True, hide_others, keep_last_panel)",
    "",
    "        @staticmethod",
    "        def hide():",
    "            _binding.set_panel_active(" ++ path ++ ", False)",
    "",
    "        @staticmethod",
    "        def toggle():",
    "            _binding.toggle_panel(" ++ path ++ ")"]

def accessorLine (e : GroupElement) : String :=
  "        " ++ e.property ++ " = ElementAccessor(_binding, " ++ quoted e.reference.path ++ ", " ++
    e.accessor ++ ")"

/-- The accessors, those of one role under a heading. `gap` says whether lines stand before. -/
def elementLines (gap : Bool) (role : Option Capability) : List GroupElement → List String
  | [] => []
  | e :: es =>
    let own := e.reference.capability
    (if role = some own then []
      else linesIf gap [""] ++ ["        # " ++ own.label]) ++
      accessorLine e :: elementLines true (some own) es

def groupBody (g : PanelGroup) : List String :=
  match g.panel with
  | some p => panelLines p ++ elementLines true none g.elements
  | none => elementLines false none g.elements

def groupLines (g : PanelGroup) : List String :=
  let body := groupBody g
  ["    # region " ++ g.key,
    "    class " ++ g.className ++ ":",
    "        \"\"\"" ++ g.key ++ " panel and its UI elements\"\"\"",
    ""] ++ (if body.isEmpty then ["        pass"] else body) ++ ["    # endregion", ""]

/-- The component types that the accessors fetch, in alphabetical order. -/
def fetchedTypes (groups : List PanelGroup) : List String :=
  let types := groups.flatMap fun g => g.elements.map (·.accessor)
  (types.eraseDups.filter (· != Capability.nodeType)).mergeSort fun a b => decide (a ≤ b)

def fetchesNode (groups : List PanelGroup) : Bool :=
  groups.any fun g =>
    g.panel.isSome || g.elements.any fun e => e.accessor == Capability.nodeType

def libraryHeader (scene : String) (stamp : Option String) : List String :=
  [libraryRule, "# AUTO-GENERATED CODE - DO NOT MODIFY", libraryRule,
    "# Scene: " ++ Name.sanitize scene] ++ stampLine stamp ++
  [libraryRule, "\"\"\"", "UI library for " ++ scene ++ ".", "",
    "Usage: UI.initialize(registry), then UI.<Panel>.<Element>", "\"\"\"", ""]

def libraryImports (groups : List PanelGroup) : List String :=
  let types := fetchedTypes groups
  linesIf (!types.isEmpty) ["from flowui.components import " ++ ", ".intercalate types] ++
    ["from flowui.core.runtime import ElementAccessor, LibraryBinding, PanelVisibility"] ++
    linesIf (fetchesNode groups) ["from flowui.core.scene import SceneNode"]

def libraryOpening (scene : String) : List String :=
  ["",
    "SCENE_NAME = " ++ quoted scene,
    "",
    "_binding = LibraryBinding(SCENE_NAME)",
    "",
    "",
    "class UI:",
    "    \"\"\"Dot-path access to every registered UI element of " ++ scene ++ "\"\"\"",
    "",
    "    @staticmethod",
    "    def initialize(registry):",
    "        _binding.initialize(registry)",
    "",
    "    @staticmethod",
    "    def is_initialized() -> bool:",
    "        return _binding.is_initialized",
    ""]

/-- The text of a library. It shows a date only if it is given one. -/
def libraryText (scene : String) (groups : List PanelGroup) (stamp : Option String) : String :=
  unlines (dropBlankEnd (libraryHeader scene stamp ++ libraryImports groups ++
    libraryOpening scene ++ groups.flatMap groupLines))

end SceneBindings.Emit
