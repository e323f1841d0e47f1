import SceneBindings.Number.Numeral
import SceneBindings.Validation.Issue

/-!
Numbers in the texts of a document. A text that is no number as it stands is read once more in a
tidy form: without the underscores that join it and, for a whole number, without zeros at its head
and without a fraction of zeros.
-/

namespace SceneBindings.NumberText

open Numeral

def hasDoubleUnderscore : List Char → Bool
  | '_' :: '_' :: _ => true
  | _ :: r => hasDoubleUnderscore r
  | [] => false

/-- A text without its underscores, if it has any; they are single and stand at no end. -/
def joined? (s : List Char) : Option (List Char) :=
  if s.contains '_' && s.head? != some '_' && s.getLast? != some '_' && !hasDoubleUnderscore s then
    some (s.filter (· != '_'))
  else none

/-- A float. White space may stand around it, but not if underscores join it. -/
def float? (s : List Char) : Option Binary64 :=
  if s.contains '_' then (joined? s).bind bareFloat? else bareFloat? (inner s)

/-- The most characters that a whole number may have, with its sign. -/
def intLength : Nat := 4300

def unsigned (s : List Char) : Bool × List Char :=
  match s with
  | '-' :: r => (true, r)
  | r => (false, r)

/-- A whole number with no needless zero and no sign but a minus. Too many digits are an error of
their own, whatever stands after them. -/
def tidyInt (s : List Char) : Except Issue.Cause Int :=
  let (negative, body) := unsigned s
  let ds := body.takeWhile Char.isDigit
  match ds with
  | [] => .error .unreadableInt
  | '0' :: _ => if body = ['0'] then .ok 0 else .error .unreadableInt
  | _ =>
    if intLength < ds.length + negative.toNat then .error .oversizedInt
    else if ds.length < body.length then .error .unreadableInt
    else .ok (if negative then -(value ds : Int) else value ds)

/-- What is left after a zero and the zeros and underscores behind it: a number, a minus sign or a
point with the character before it. If nothing follows, the last character stays. -/
def afterZero (last : Char) : List Char → Option (List Char)
  | [] => some [last]
  | c :: r =>
    if c = '0' ∨ c = '_' then afterZero c r
    else if c = '.' then some (last :: c :: r)
    else if c.isDigit ∨ c = '-' then some (c :: r)
    else none

/-- A number without the zeros at its head. -/
def dropZeros? : List Char → Option (List Char)
  | [] => none
  | c :: r =>
    if c = '0' then afterZero c r
    else if c.isDigit ∨ c = '-' then some (c :: r)
    else none

/-- A number without a fraction of zeros, of which there is one at least. -/
def dropFraction (s : List Char) : List Char :=
  match s.dropWhile (· != '.') with
  | '.' :: '0' :: zs => if zs.all (· == '0') then s.takeWhile (· != '.') else s
  | _ => s

/-- A number without the underscores between its digits. -/
def dropUnderscores (s : List Char) : List Char :=
  let (negative, body) := unsigned s
  let plain := (joined? body).getD body
  if negative then '-' :: plain else plain

/-- A text without the sign that changes nothing. -/
def dropPlus? : List Char → Option (List Char)
  | '+' :: '-' :: _ => none
  | '+' :: r => some r
  | r => some r

/-- The tidy form of a whole number. -/
def tidied? (s : List Char) : Option (List Char) :=
  ((dropPlus? (inner s)).bind dropZeros?).map fun r => dropUnderscores (dropFraction r)

/-- A whole number, as it stands or in its tidy form. -/
def int (s : List Char) : Except Issue.Cause Int :=
  match tidyInt s with
  | .error .unreadableInt =>
    match tidied? s with
    | some t => tidyInt t
    | none => .error .unreadableInt
  | r => r

end SceneBindings.NumberText
