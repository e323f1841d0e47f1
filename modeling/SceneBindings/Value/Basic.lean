import SceneBindings.Number.Binary64

/-!
Values of a stored document: scenes, registries and settings are written as trees of these, and a
component keeps the values it was described with.
-/

namespace SceneBindings

inductive Value where
  | null
  | bool (b : Bool)
  | int (i : Int)
  | float (x : Binary64)
  | text (s : String)
  | list (xs : List Value)
  | object (fields : List (String × Value))
  deriving Inhabited

namespace Value

/-- The value of a field; of several with one name the last counts. -/
def field? (name : String) (fields : List (String × Value)) : Option Value :=
  (fields.reverse.find? (·.1 == name)).map (·.2)

def get? : Value → String → Option Value
  | object fields, name => field? name fields
  | _, _ => none

/-- Whether a value counts as given: not null, not false, not zero and not empty. -/
def isTruthy : Value → Bool
  | null => false
  | bool b => b
  | int i => i != 0
  | float (.finite _ m _) => m != 0
  | float _ => true
  | text s => !s.isEmpty
  | list xs => !xs.isEmpty
  | object fields => !fields.isEmpty

/-- The place of a number on the number line; a truth value counts as one or zero. -/
def number? : Value → Option (Option Binary64.Place)
  | bool b => some (some (Binary64.placeInt (if b then 1 else 0)))
  | int i => some (some (Binary64.placeInt i))
  | float x => some x.place?
  | _ => none

/-- Whether two numbers stand at one place. -/
def onePlace : Option (Option Binary64.Place) → Option (Option Binary64.Place) → Bool
  | some (some p), some (some q) => p.eq q
  | _, _ => false

mutual

/-- Equality of values: numbers by their place on the line, whatever their kind, lists element by
element, objects by name. -/
def same : Value → Value → Bool
  | null, null => true
  | text a, text b => a == b
  | list xs, list ys => sameAll xs ys
  | object fs, object gs => fs.length == gs.length && sameFields fs gs
  | a, b => onePlace a.number? b.number?

def sameAll : List Value → List Value → Bool
  | [], [] => true
  | x :: xs, y :: ys => x.same y && sameAll xs ys
  | _, _ => false

def sameFields : List (String × Value) → List (String × Value) → Bool
  | [], _ => true
  | (k, v) :: fs, gs =>
    (match field? k gs with
      | some w => v.same w
      | none => false) && sameFields fs gs

end

/-- Numbers in increasing order; false if either is no number. -/
def lt (a b : Value) : Option Bool :=
  match a.number?, b.number? with
  | some (some p), some (some q) => some (p.lt q)
  | some _, some _ => some false
  | _, _ => none

end Value

end SceneBindings
