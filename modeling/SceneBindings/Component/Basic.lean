import SceneBindings.Failure
import SceneBindings.Table
import SceneBindings.Value.Equality

/-!
Components that a node carries. A kind of component declares its attributes, the parts that it names
among the nodes below its owner, and the event that it fires.
-/

namespace SceneBindings

/-- The number of a node, counted from one in the order of creation. -/
abbrev Key := Nat

inductive ComponentKind where
  | button
  | text
  | richText
  | toggle
  | inputField
  | slider
  | dropdown
  | scrollRect
  | scrollbar
  | image
  | rawImage
  | canvas
  | canvasGroup
  deriving DecidableEq, Repr

namespace ComponentKind

def all : List ComponentKind :=
  [button, text, richText, toggle, inputField, slider, dropdown, scrollRect, scrollbar, image,
    rawImage, canvas, canvasGroup]

def label : ComponentKind → String
  | button => "Button"
  | text => "Text"
  | richText => "RichText"
  | toggle => "Toggle"
  | inputField => "InputField"
  | slider => "Slider"
  | dropdown => "Dropdown"
  | scrollRect => "ScrollRect"
  | scrollbar => "Scrollbar"
  | image => "Image"
  | rawImage => "RawImage"
  | canvas => "Canvas"
  | canvasGroup => "CanvasGroup"

def ofLabel? (s : String) : Option ComponentKind := all.find? fun k => k.label == s

def zero : Value := .float .zero
def one : Value := .float (.ofInt 1)

/-- The attributes of a new component. -/
def attributes : ComponentKind → List (String × Value)
  | button => [("interactable", .bool true)]
  | text => [("text", .text "")]
  | richText => [("text", .text "")]
  | toggle => [("is_on", .bool false)]
  | inputField => [("text", .text "")]
  | slider => [("min_value", zero), ("max_value", one), ("value", zero)]
  | dropdown => [("options", .list []), ("value", .int 0)]
  | scrollRect => [("normalized_position", .list [zero, one])]
  | scrollbar => [("value", zero)]
  | image => [("sprite", .null)]
  | rawImage => [("texture", .null)]
  | canvas => []
  | canvasGroup => [("alpha", one), ("interactable", .bool true)]

/-- The parts that a composite component names among the nodes below its owner. -/
def parts : ComponentKind → List String
  | toggle => ["graphic"]
  | inputField => ["text_component", "placeholder"]
  | slider => ["fill_rect", "handle_rect"]
  | scrollRect => ["viewport", "content", "horizontal_scrollbar", "vertical_scrollbar"]
  | _ => []

def event? : ComponentKind → Option String
  | button => some "on_click"
  | toggle => some "on_value_changed"
  | inputField => some "on_value_changed"
  | slider => some "on_value_changed"
  | dropdown => some "on_value_changed"
  | scrollRect => some "on_value_changed"
  | _ => none

/-- How an attribute is written down. -/
inductive Saving where
  | always
  | ifGiven
  /-- As a list of its elements. -/
  | asList
  deriving DecidableEq, Repr

/-- The attributes that are written down, in order. -/
def saved : ComponentKind → List (String × Saving)
  | button => [("interactable", .always)]
  | text => [("text", .ifGiven)]
  | richText => [("text", .ifGiven)]
  | toggle => [("is_on", .always)]
  | inputField => [("text", .ifGiven)]
  | slider => [("min_value", .always), ("max_value", .always), ("value", .always)]
  | dropdown => [("options", .asList), ("value", .always)]
  | scrollRect => []
  | scrollbar => []
  | image => [("sprite", .ifGiven)]
  | rawImage => [("texture", .ifGiven)]
  | canvas => []
  | canvasGroup => [("alpha", .always), ("interactable", .always)]

/-- The operations of a component, which a description may overwrite and so disable. -/
def operations : ComponentKind → List String
  | button => "click" :: common
  | toggle => "set_is_on" :: common
  | inputField => "set_text" :: common
  | slider => "set_value" :: common
  | dropdown => "select" :: common
  | scrollRect => "scroll_to" :: common
  | _ => common
where
  common : List String := ["state", "to_dict", "from_dict", "pending_refs"]

/-- What every object has besides. -/
def inherited : List String :=
  ["__abstractmethods__", "__annotations__", "__class__", "__delattr__", "__dict__", "__dir__",
    "__doc__", "__eq__", "__format__", "__ge__", "__getattribute__", "__getstate__", "__gt__",
    "__hash__", "__init__", "__init_subclass__", "__le__", "__lt__", "__module__", "__ne__", "__new__",
    "__reduce__", "__reduce_ex__", "__repr__", "__setattr__", "__sizeof__", "__slots__", "__str__",
    "__subclasshook__", "__weakref__", "_abc_impl"]

/-- What all components of a kind have in common: each has it until something of its own stands in
its place. -/
def shared (kind : ComponentKind) : List String :=
  kind.operations ++ ["type_name", "node_refs"] ++ inherited

end ComponentKind

structure Component where
  kind : ComponentKind
  /-- The attributes of its own that hold values. -/
  attributes : Table String Value
  /-- The attributes of its own that hold nodes, above all its parts. They hide values. -/
  parts : Table String Key
  /-- The listeners of its event in the order in which they are called; none if the kind has no event,
  or something else stands in its place. -/
  listeners : Option (List String)

/-- What an attribute holds. -/
inductive Held where
  | value (v : Value)
  | node (k : Key)

namespace Component

def new (kind : ComponentKind) : Component :=
  ⟨kind, ⟨("node", .null) :: kind.attributes ++ kind.parts.map fun p => (p, .null)⟩, .empty,
    kind.event?.map fun _ => []⟩

def held? (c : Component) (name : String) : Option Held :=
  match c.parts.get? name with
  | some k => some (.node k)
  | none => (c.attributes.get? name).map .value

def valueOf (c : Component) (name : String) : Value := (c.attributes.get? name).getD .null

def part? (c : Component) (name : String) : Option Key := c.parts.get? name

def setAttribute (c : Component) (name : String) (v : Value) : Component :=
  { c with
    attributes := c.attributes.put name v
    parts := c.parts.erase name
    listeners := if c.kind.event? = some name then none else c.listeners }

def setPart (c : Component) (name : String) (k : Key) : Component :=
  { c with parts := c.parts.put name k }

/-- What a node keeps the component under: the name of its kind, unless it has one of its own. -/
def label (c : Component) : Value := (c.attributes.get? "type_name").getD (.text c.kind.label)

/-- The node at which parts are looked up. -/
def base (c : Component) (owner : Key) : Key := (c.part? "node").getD owner

end Component

end SceneBindings
