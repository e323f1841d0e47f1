import SceneBindings.Naming.Words

/-!
Identifiers of the emitted units: ASCII letters, digits and underscores, no digit first, and never a
keyword of Python, the language that the units are written in.
-/

namespace SceneBindings.Naming

open Text

def isIdentifierChar (c : Char) : Bool := c.isAlphanum || c == '_'

def unnamed : List Char := "Unnamed".toList

/-- The runs of letters and digits, joined by underscores. -/
def sanitize (s : List Char) : List Char :=
  match joinWith ['_'] (wordsBy (fun c => !c.isAlphanum) s) with
  | [] => unnamed
  | c :: r => if c.isDigit then '_' :: c :: r else c :: r

/-- Small words joined by underscores. -/
def snake (s : List Char) : List Char := joinWith ['_'] ((nameWords (sanitize s)).map lower)

def keywords : List (List Char) :=
  ["False", "None", "True", "and", "as", "assert", "async", "await", "break", "class", "continue",
    "def", "del", "elif", "else", "except", "finally", "for", "from", "global", "if", "import",
    "in", "is", "lambda", "nonlocal", "not", "or", "pass", "raise", "return", "try", "while",
    "with", "yield"].map String.toList

/-- An identifier with an underscore after it if it is a keyword. -/
def escapeKeyword (s : List Char) : List Char := if keywords.contains s then s ++ ['_'] else s

end SceneBindings.Naming
