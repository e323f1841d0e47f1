/-!
The roles that a node of the interface can play. A role decides the word that ends a canonical name,
the type that an accessor fetches and the hook that the node fires.
-/

namespace SceneBindings

inductive Capability where
  | button
  | text
  | richText
  | toggle
  | inputField
  | slider
  | dropdown
  | scrollArea
  | image
  | rawImage
  | panel
  | canvas
  | canvasGroup
  | unknown
  deriving DecidableEq, Repr

/-- How a hook is named, which event calls it and what it is given. -/
structure HookSpec where
  suffix : String
  event : String
  /-- Name and type of the argument, if the event carries one. -/
  argument : Option (String × String)
  verb : String
  /-- The method of an emitted unit that wires the hooks of this kind. -/
  setup : String
  deriving DecidableEq, Repr

namespace Capability

def all : List Capability :=
  [button, text, richText, toggle, inputField, slider, dropdown, scrollArea, image, rawImage, panel,
    canvas, canvasGroup, unknown]

/-- The name of a role, which is also the name of its category. -/
def label : Capability → String
  | button => "Button"
  | text => "Text"
  | richText => "RichText"
  | toggle => "Toggle"
  | inputField => "InputField"
  | slider => "Slider"
  | dropdown => "Dropdown"
  | scrollArea => "ScrollArea"
  | image => "Image"
  | rawImage => "RawImage"
  | panel => "Panel"
  | canvas => "Canvas"
  | canvasGroup => "CanvasGroup"
  | unknown => "Unknown"

def ofLabel? (s : String) : Option Capability := all.find? fun c => c.label == s

/-- The word that a canonical name ends with; a role without one is never renamed. -/
def typeWord? : Capability → Option String
  | button => some "Button"
  | toggle => some "Toggle"
  | slider => some "Slider"
  | dropdown => some "Dropdown"
  | inputField => some "InputField"
  | scrollArea => some "ScrollView"
  | text => some "Text"
  | richText => some "Text"
  | image => some "Image"
  | rawImage => some "Image"
  | panel => some "Panel"
  | canvas => none
  | canvasGroup => none
  | unknown => none

/-- The type that stands for a whole node where an accessor fetches no component. -/
def nodeType : String := "SceneNode"

/-- The component type that an accessor fetches. -/
def accessorType : Capability → String
  | scrollArea => "ScrollRect"
  | panel => nodeType
  | unknown => nodeType
  | c => c.label

/-- The roles that fire an event, in the order in which their hooks are emitted. -/
def firing : List Capability := [button, toggle, slider, inputField, dropdown]

def hook? : Capability → Option HookSpec
  | button => some ⟨"clicked", "on_click", none, "clicked", "_setup_buttons"⟩
  | toggle =>
    some ⟨"value_changed", "on_value_changed", some ("is_on", "bool"), "toggled to",
      "_setup_toggles"⟩
  | slider =>
    some ⟨"value_changed", "on_value_changed", some ("value", "float"), "value changed to",
      "_setup_sliders"⟩
  | inputField =>
    some ⟨"text_changed", "on_value_changed", some ("text", "str"), "text changed to",
      "_setup_input_fields"⟩
  | dropdown =>
    some ⟨"selection_changed", "on_value_changed", some ("index", "int"),
      "selection changed to index", "_setup_dropdowns"⟩
  | _ => none

/-- The number of arguments of the hook. -/
def hookArity? (c : Capability) : Option Nat :=
  c.hook?.map fun h => if h.argument.isSome then 1 else 0

end Capability

end SceneBindings
