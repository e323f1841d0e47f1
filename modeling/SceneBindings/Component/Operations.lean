import SceneBindings.Component.Description
import SceneBindings.Number.Numeral

/-!
Operations on components. An operation may change an attribute and fire the component's event; the
listeners are called by the caller.
-/

namespace SceneBindings.Component

/-- The component after an operation, and the arguments of the event if it fires. -/
abbrev Operated := Component × Except Failure (Option (List Value))

def still (c : Component) : Operated := (c, .ok none)

def failed (c : Component) (e : Failure) : Operated := (c, .error e)

def fire (c : Component) (args : List Value) : Operated :=
  match c.listeners with
  | some _ => (c, .ok (some args))
  | none => (c, .error .noAttribute)

/-- Stores a new value and tells the listeners, unless the value is the same as before. -/
def assign (c : Component) (name : String) (v : Value) : Operated :=
  match c.held? name with
  | none => c.failed .noAttribute
  | some (.value w) => if v.same w then c.still else (c.setAttribute name v).fire [v]
  | some (.node _) => (c.setAttribute name v).fire [v]

def click (c : Component) : Operated :=
  match c.held? "interactable" with
  | none => c.failed .noAttribute
  | some (.value v) => if v.isTruthy then c.fire [] else c.still
  | some (.node _) => c.fire []

def toFloat : Value → Except Failure Binary64
  | .float x => .ok x
  | .int i =>
    match Binary64.ofInt? i with
    | some x => .ok x
    | none => .error .tooLarge
  | .bool b => .ok (.ofInt (if b then 1 else 0))
  | .text s =>
    match Numeral.float? (Numeral.plainDigits s.toList) with
    | some x => .ok x
    | none => .error (.value (.unreadableNumber s))
  | _ => .error .wrongKind

/-- The value that an attribute holds, for an operation that needs one. -/
def read (c : Component) (name : String) : Except Failure Value :=
  match c.held? name with
  | none => .error .noAttribute
  | some (.value v) => .ok v
  | some (.node _) => .error .wrongKind

/-- The value, or the lower bound if that is greater. -/
def raise (v low : Value) : Except Failure Value :=
  match v.lt low with
  | none => .error .wrongKind
  | some below => .ok (if below then low else v)

/-- The value, or the upper bound if that is less. -/
def lower (v high : Value) : Except Failure Value :=
  match high.lt v with
  | none => .error .wrongKind
  | some above => .ok (if above then high else v)

def setValue (c : Component) (v : Value) : Operated :=
  let clamped := do
    let x ← toFloat v
    let raised ← raise (.float x) (← c.read "min_value")
    lower raised (← c.read "max_value")
  match clamped with
  | .ok v => c.assign "value" v
  | .error e => c.failed e

/-- The number of options, of which there is always one to select. -/
def optionCount (c : Component) : Except Failure Nat := do
  match elements? (← c.read "options") with
  | some xs => return max xs.length 1
  | none => throw .wrongKind

def select (c : Component) (index : Value) : Operated :=
  match index.lt (.int 0), (Value.int 0).same index || (Value.int 0).lt index == some true with
  | none, _ => c.failed .wrongKind
  | some _, false => c.failed (.optionOutOfRange index.shown)
  | some _, true =>
    match c.optionCount with
    | .error e => c.failed e
    | .ok n =>
      if index.lt (.int n) == some true then c.assign "value" index
      else c.failed (.optionOutOfRange index.shown)

def scrollTo (c : Component) (x y : Value) : Operated :=
  let position := Value.list [x, y]
  (c.setAttribute "normalized_position" position).fire [position]

/-- An operation by name. The names are those of `ComponentKind.operations`. -/
def operate (c : Component) (name : String) (args : List Value) : Operated :=
  if c.isDisabled name then c.failed .wrongKind
  else if !c.kind.operations.contains name then c.failed .noAttribute
  else
    match name, args with
    | "click", [] => c.click
    | "set_is_on", [v] => c.assign "is_on" (.bool v.isTruthy)
    | "set_text", [v] => c.assign "text" v
    | "set_value", [v] => c.setValue v
    | "select", [v] => c.select v
    | "scroll_to", [x, y] => c.scrollTo x y
    | _, _ => c.failed .wrongKind

/-! ### Listeners -/

/-- The listeners of an event, if the component has the event. -/
def listeners? (c : Component) (event : String) : Option (List String) :=
  if c.kind.event? = some event then c.listeners else none

def setListeners (c : Component) (ids : List String) : Component :=
  { c with listeners := some ids }

end SceneBindings.Component
