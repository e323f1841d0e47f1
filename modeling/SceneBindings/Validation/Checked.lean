import SceneBindings.Number.Binary64
import SceneBindings.Validation.Issue
import SceneBindings.Value.Basic

/-!
Reading typed data from values. A faulty field does not stop the others, so all issues of a document
come together, in the order of the declared fields.
-/

namespace SceneBindings

inductive Checked (α : Type) where
  | ok (a : α)
  | bad (issues : List Issue)

namespace Checked

def map {α β : Type} (f : α → β) : Checked α → Checked β
  | ok a => ok (f a)
  | bad is => bad is

/-- Both results, or the issues of both. -/
def both {α β : Type} : Checked (α → β) → Checked α → Checked β
  | ok f, ok a => ok (f a)
  | ok _, bad is => bad is
  | bad is, ok _ => bad is
  | bad is, bad js => bad (is ++ js)

instance : Applicative Checked where
  pure := ok
  seq f x := both f (x ())

def fail {α : Type} (cause : Issue.Cause) : Checked α := bad [⟨[], cause⟩]

/-- The issues of a part, seen from the whole. -/
def within {α : Type} (key : String) : Checked α → Checked α
  | ok a => ok a
  | bad is => bad (is.map fun i => { i with place := key :: i.place })

/-- A further condition on a value that was read. -/
def check {α : Type} (test : α → Option Issue.Cause) : Checked α → Checked α
  | ok a =>
    match test a with
    | none => ok a
    | some cause => fail cause
  | bad is => bad is

def ofExcept {α : Type} : Except Issue.Cause α → Checked α
  | .ok a => ok a
  | .error cause => fail cause

def toExcept {α : Type} : Checked α → Except (List Issue) α
  | ok a => .ok a
  | bad is => .error is

end Checked

/-- The library that checks documents: what it takes for a text, a truth value and a number. A text is
taken as it is, and nothing else is one; a truth value is taken as it is. -/
class Validator where
  readString : Value → Checked String
  readBool : Value → Checked Bool
  readInt : Value → Checked Int
  readFloat : Value → Checked Binary64
  readString_eq_ok {v : Value} {s : String} : readString v = .ok s ↔ v = .text s
  readBool_bool (b : Bool) : readBool (.bool b) = .ok b

namespace Value

def tooShort? (s : String) : Option Issue.Cause := if s.isEmpty then some .tooShort else none

def readNonempty [Validator] (v : Value) : Checked String :=
  (Validator.readString v).check tooShort?

def orElse {α : Type} (o : Option α) (cause : Issue.Cause) : Checked α :=
  match o with
  | some a => .ok a
  | none => .fail cause

/-- Null, or what `read` accepts. -/
def readOptional {α : Type} (read : Value → Checked α) : Value → Checked (Option α)
  | null => .ok none
  | v => (read v).map some

def readItemsFrom {α : Type} (read : Value → Checked α) (i : Nat) : List Value → Checked (List α)
  | [] => .ok []
  | v :: vs => (List.cons <$> (read v).within (toString i)) <*> readItemsFrom read (i + 1) vs

def readList {α : Type} (read : Value → Checked α) : Value → Checked (List α)
  | list xs => readItemsFrom read 0 xs
  | _ => .fail .notList

/-- A record read from the fields of an object. -/
def readRecord {α : Type} (read : List (String × Value) → Checked α) : Value → Checked α
  | object fields => read fields
  | _ => .fail .notRecord

end Value

/-- A field that must be there. -/
def required {α : Type} (fields : List (String × Value)) (name : String)
    (read : Value → Checked α) : Checked α :=
  match Value.field? name fields with
  | some v => (read v).within name
  | none => (Checked.fail .missing).within name

/-- A field with a default, which is not checked. -/
def optional {α : Type} (fields : List (String × Value)) (name : String) (default : α)
    (read : Value → Checked α) : Checked α :=
  match Value.field? name fields with
  | some v => (read v).within name
  | none => .ok default

end SceneBindings
