/-!
Parts of a text: what it begins with, ends with and contains.
-/

namespace SceneBindings.Text

def startsWith (p s : List Char) : Bool := p.isPrefixOf s

def endsWith (p s : List Char) : Bool := p.isSuffixOf s

/-- Whether one text occurs in another as a contiguous part. -/
def occursIn (p : List Char) : List Char → Bool
  | [] => p.isEmpty
  | c :: r => p.isPrefixOf (c :: r) || occursIn p r

/-- The text without its last `n` characters. -/
def dropLast (n : Nat) (s : List Char) : List Char := s.take (s.length - n)

/-- The last `n` characters of a text. -/
def takeLast (n : Nat) (s : List Char) : List Char := s.drop (s.length - n)

end SceneBindings.Text
