import SceneBindings.Text.Blank
import SceneBindings.Text.Case
import SceneBindings.Text.Digit

/-!
Captured names without their markers. An editor appends `(Legacy)` to the names of outdated widgets
and a counter such as `(1)` to copies; each marker goes together with the white space around it, and
the words that remain are joined by an underscore.
-/

namespace SceneBindings.Naming

open Text

/-- The length of the marker that a text begins with, white space around it included. -/
abbrev MarkerLength := List Char → Option Nat

def blanks (s : List Char) : Nat := (s.takeWhile isBlank).length

def legacyLength : MarkerLength := fun s =>
  (dropWord? "(legacy)".toList (s.drop (blanks s))).map fun r => blanks s + 8 + blanks r

/-- The number of digits between two parentheses at the head of a text, if it begins so. -/
def counterDigits? : List Char → Option Nat
  | '(' :: r =>
    match r.takeWhile isDigit, r.dropWhile isDigit with
    | [], _ => none
    | ds, ')' :: _ => some ds.length
    | _, _ => none
  | _ => none

def counterLength : MarkerLength := fun s =>
  (counterDigits? (s.drop (blanks s))).map fun n =>
    blanks s + (n + 2) + blanks (s.drop (blanks s + (n + 2)))

/-- Replaces each marker by a space, from left to right; `skip` characters belong to a marker
already replaced. -/
def replaceFrom (marker : MarkerLength) (skip : Nat) : List Char → List Char
  | [] => []
  | c :: r =>
    match skip with
    | n + 1 => replaceFrom marker n r
    | 0 =>
      match marker (c :: r) with
      | some (n + 1) => ' ' :: replaceFrom marker n r
      | _ => c :: replaceFrom marker 0 r

def replaceMarkers (marker : MarkerLength) (s : List Char) : List Char := replaceFrom marker 0 s

def cleanup (s : List Char) : List Char :=
  joinWith ['_']
    (wordsBy isBlank (replaceMarkers counterLength (replaceMarkers legacyLength s)))

end SceneBindings.Naming
