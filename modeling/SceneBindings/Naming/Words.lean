import SceneBindings.Text.Blank
import SceneBindings.Text.Case

/-!
The words of a name. Underscores and white space separate words, and so does the step from a small
letter or digit to a capital.
-/

namespace SceneBindings.Naming

open Text

def isWordGap (c : Char) : Bool := c == '_' || isBlank c

def isCamelStep (c d : Char) : Bool := (c.isLower || c.isDigit) && d.isUpper

def nameWords (s : List Char) : List (List Char) := wordsCut isWordGap isCamelStep s

/-- A word with its first letter large and the others small. -/
def capitalize : List Char → List Char
  | [] => []
  | c :: r => upperLetter c ++ lower r

/-- Capitalized words joined by underscores. -/
def pascal (s : List Char) : List Char := joinWith ['_'] ((nameWords s).map capitalize)

end SceneBindings.Naming
