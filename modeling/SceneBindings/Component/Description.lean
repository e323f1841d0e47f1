import SceneBindings.Component.Basic

/-!
Components as a scene describes them: the name of a kind, or an object with a `type` and values for
attributes and parts. Values are taken as they are.
-/

namespace SceneBindings

namespace Value

mutual

/-- A value as it is spelled in a message that quotes texts. -/
def spelled : Value → String
  | null => "None"
  | bool b => if b then "True" else "False"
  | int i => toString i
  | float x => x.text
  | text s => Text.quoted s
  | list xs => "[" ++ spelledItems "" xs ++ "]"
  | object fields => "\x7b" ++ spelledFields "" fields ++ "\x7d"

def spelledItems (lead : String) : List Value → String
  | [] => ""
  | x :: xs => lead ++ x.spelled ++ spelledItems ", " xs

def spelledFields (lead : String) : List (String × Value) → String
  | [] => ""
  | (k, v) :: fs => lead ++ Text.quoted k ++ ": " ++ v.spelled ++ spelledFields ", " fs

end

/-- A value as it stands in a message; a text stands for itself. -/
def shown : Value → String
  | text s => s
  | v => v.spelled

def text? : Value → Option String
  | text s => some s
  | _ => none

end Value

namespace Component

/-- Whether a component has something under a name. -/
def has (c : Component) (name : String) : Bool :=
  (c.held? name).isSome || (c.listeners.isSome && c.kind.event? == some name) ||
    c.kind.shared.contains name

/-- Puts a value under a name. What an object is and who refers to it weakly cannot be set; what takes
the place of all attributes at once has to be an object. -/
def setField (c : Component) (name : String) (v : Value) : Except Failure Component :=
  if name = "__class__" then .error .wrongKind
  else if name = "__weakref__" then .error .noAttribute
  else if name = "__dict__" then
    match v with
    | .object fields =>
      .ok { c with
        attributes := .ofList fields
        listeners := none }
    | _ => .error .wrongKind
  else .ok (c.setAttribute name v)

/-- Takes over one field of a description. Parts are found later, when the whole tree is there. -/
def takeField (c : Component) (name : String) (v : Value) : Except Failure Component :=
  if name = "type" ∨ c.kind.parts.contains name then .ok c
  else if c.has name then c.setField name v
  else .error (.value (.unknownField c.kind.label name))

def takeFields (c : Component) : List (String × Value) → Except Failure Component
  | [] => .ok c
  | (name, v) :: fields =>
    match c.takeField name v with
    | .ok c => c.takeFields fields
    | .error e => .error e

/-- The kind that a description's `type` names. -/
def kindOf : Value → Except Failure ComponentKind
  | .text s =>
    match ComponentKind.ofLabel? s with
    | some k => .ok k
    | none => .error (.value (.unknownComponent s))
  | .list _ => .error .wrongKind
  | .object _ => .error .wrongKind
  | v => .error (.value (.unknownComponent v.shown))

def ofDescription : Value → Except Failure Component
  | .text s => (kindOf (.text s)).map new
  | .object fields =>
    match kindOf ((Value.field? "type" fields).getD .null) with
    | .ok k => (new k).takeFields fields
    | .error e => .error e
  | _ => .error .noAttribute

/-- The elements of a value, for values that have any. -/
def elements? : Value → Option (List Value)
  | .list xs => some xs
  | .text s => some (s.toList.map fun c => .text (String.singleton c))
  | .object fields => some (fields.map fun f => .text f.1)
  | _ => none

/-- The names of the parts: those of the kind, unless the component has a list of its own. -/
def partNames? (c : Component) : Option (List Value) :=
  match c.attributes.get? "node_refs" with
  | none => some (c.kind.parts.map .text)
  | some names => elements? names

/-- Whether something of its own stands in the place of an operation. -/
def isDisabled (c : Component) (operation : String) : Bool := (c.held? operation).isSome

/-- Whether a node can ask a component for its parts. -/
def tellsParts (c : Component) : Bool :=
  !c.isDisabled "pending_refs" && c.partNames?.any fun names => names.all Value.isKey

/-- The component that a node takes over for an entry. -/
def ofEntry (v : Value) : Except Failure Component :=
  match ofDescription v with
  | .ok c => if c.label.isKey && c.tellsParts then .ok c else .error .wrongKind
  | .error e => .error e

/-- Whether a part is given in a description. What took the place of all attributes holds the owner
of the component by then, so it is not empty. -/
def isGiven (name : String) (v : Value) : Bool := v.isTruthy || name == "__dict__"

/-- The parts that a description names, with the paths at which to look for them. -/
def pendingParts (c : Component) : Value → List (String × Value)
  | .object fields =>
    (((c.partNames?.getD []).filterMap Value.text?).eraseDups).filterMap fun p =>
      match Value.field? p fields with
      | some v => if isGiven p v then some (p, v) else none
      | none => none
  | _ => []

/-! ### Writing down -/

def writeAttribute (c : Component) (name : String) (saving : ComponentKind.Saving) :
    Except Failure (List (String × Value)) :=
  match c.held? name, saving with
  | none, _ => .error .noAttribute
  -- a node is no value that can be written down
  | some (.node _), _ => .error .wrongKind
  | some (.value v), .always => .ok [(name, v)]
  | some (.value v), .ifGiven => .ok (if v.isTruthy then [(name, v)] else [])
  | some (.value v), .asList =>
    match elements? v with
    | some xs => .ok [(name, .list xs)]
    | none => .error .wrongKind

def writeAttributes (c : Component) :
    List (String × ComponentKind.Saving) → Except Failure (List (String × Value))
  | [] => .ok []
  | (name, saving) :: more =>
    match c.writeAttribute name saving, c.writeAttributes more with
    | .ok fields, .ok rest => .ok (fields ++ rest)
    | .error e, _ => .error e
    | _, .error e => .error e

/-- The node that a component gives for a name when its parts are written down. -/
def target? (c : Component) (owner : Key) (name : String) : Except Failure (Option Key) :=
  if name = "node" then .ok (some (c.base owner))
  else if name = "__weakref__" then .ok none
  else if name = "__dict__" ∨ name = "__class__" then .error .noAttribute
  else
    match c.held? name with
    | some (.node k) => .ok (some k)
    | some (.value .null) => .ok none
    | some (.value _) => .error .noAttribute
    | none => if c.has name ∧ name ≠ "__doc__" then .error .noAttribute else .ok none

end Component

end SceneBindings
