import SceneBindings.Validation.Checked

/-!
Scenes as they are stored: a name and a tree of described nodes. Fields that are not declared are
passed over.
-/

namespace SceneBindings

structure NodeSpec where
  name : String
  active : Bool
  /-- Names of kinds and objects, not yet looked into. -/
  components : List Value
  children : List NodeSpec

structure SceneSpec where
  name : String
  roots : List NodeSpec

namespace NodeSpec

def readName [Validator] (v : Value) : Checked String :=
  v.readNonempty.check fun s =>
    if s.toList.contains '/' then some (.broken (.separatorInName s)) else none

/-- A component entry is a name or an object; anything else is neither. -/
def readEntry : Value → Checked Value
  | .text s => .ok (.text s)
  | .object fields => .ok (.object fields)
  | _ => .bad [⟨["str"], .notString⟩, ⟨["dict[str,any]"], .notObject⟩]

def lacksType : Value → Bool
  | .object fields => (Value.field? "type" fields).isNone
  | _ => false

def readEntries (v : Value) : Checked (List Value) :=
  (v.readList readEntry).check fun es =>
    if es.any lacksType then some (.broken .componentWithoutType) else none

/-- The node that the fields of an object describe, given what was read of its children. -/
def ofFields [Validator] (fields : List (String × Value))
    (children : Option (Checked (List NodeSpec))) : Checked NodeSpec :=
  mk <$> required fields "name" readName
    <*> optional fields "active" true Validator.readBool
    <*> optional fields "components" [] readEntries
    <*> (children.getD (.ok [])).within "children"

mutual

def read [Validator] : Value → Checked NodeSpec
  | .object fields => ofFields fields (readChildren fields)
  | _ => .fail .notRecord

/-- What the last field named `children` holds. -/
def readChildren [Validator] : List (String × Value) → Option (Checked (List NodeSpec))
  | [] => none
  | (name, v) :: fields =>
    match readChildren fields with
    | some r => some r
    | none => if name = "children" then some (readNodes v) else none

def readNodes [Validator] : Value → Checked (List NodeSpec)
  | .list xs => readNodesFrom 0 xs
  | _ => .fail .notList

def readNodesFrom [Validator] (i : Nat) : List Value → Checked (List NodeSpec)
  | [] => .ok []
  | v :: vs => (List.cons <$> (read v).within (toString i)) <*> readNodesFrom (i + 1) vs

end

end NodeSpec

def SceneSpec.read [Validator] (fields : List (String × Value)) : Checked SceneSpec :=
  (fun name roots _ => mk name roots)
    <$> required fields "scene" Value.readNonempty
    <*> optional fields "roots" [] NodeSpec.readNodes
    <*> optional fields "schema_version" none (Value.readOptional Validator.readString)

end SceneBindings
