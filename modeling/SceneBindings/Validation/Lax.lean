import SceneBindings.Validation.Checked
import SceneBindings.Validation.NumberText

/-!
A validator that takes over what is as good as a value of the type: words and numbers for truth values,
whole floats for integers, and the texts of numbers.
-/

namespace SceneBindings.Value

def readString : Value → Checked String
  | text s => .ok s
  | _ => .fail .notString

def boolWord? (s : String) : Option Bool :=
  let w := String.ofList (s.toList.map Char.toLower)
  if ["1", "true", "t", "yes", "y", "on"].contains w then some true
  else if ["0", "false", "f", "no", "n", "off"].contains w then some false
  else none

/-- The first integer beyond a word of 64 bits with a sign. -/
def wordEnd : Nat := 9223372036854775808

/-- Of the integers in a word, zero and one are truth values; an integer beyond is of a wrong kind
altogether. -/
def boolOfInt (inWord : Bool) (i : Int) : Checked Bool :=
  if i = 0 then .ok false
  else if i = 1 then .ok true
  else .fail (if inWord then .unreadableBool else .notBool)

def readBool : Value → Checked Bool
  | bool b => .ok b
  | int i => boolOfInt (decide (-(wordEnd : Int) ≤ i ∧ i < wordEnd)) i
  | float x =>
    match x.integral? with
    | some i => boolOfInt (decide (i.natAbs < wordEnd)) i
    | none => .fail .notBool
  | text s => orElse (boolWord? s) .unreadableBool
  | _ => .fail .notBool

def readFloat : Value → Checked Binary64
  | float x => .ok x
  | int i => orElse (Binary64.ofInt? i) .notFloat
  | bool b => .ok (.ofInt (if b then 1 else 0))
  | text s => orElse (NumberText.float? s.toList) .unreadableFloat
  | _ => .fail .notFloat

/-- A float is read as the integer that it equals, if a word holds that. -/
def intOfFloat (x : Binary64) : Checked Int :=
  match x, x.integral? with
  | .finite _ _ _, some i => if i.natAbs < wordEnd then .ok i else .fail .oversizedInt
  | .finite _ _ _, none => .fail .fractionalInt
  | _, _ => .fail .infiniteInt

def readInt : Value → Checked Int
  | int i => .ok i
  | bool b => .ok (if b then 1 else 0)
  | float x => intOfFloat x
  | text s => .ofExcept (NumberText.int s.toList)
  | _ => .fail .notInt

instance lax : Validator where
  readString := readString
  readBool := readBool
  readInt := readInt
  readFloat := readFloat
  readString_eq_ok {v s} := by
    cases v <;> simp [readString, Checked.fail]
  readBool_bool _ := rfl

end SceneBindings.Value
