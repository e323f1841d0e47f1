import SceneBindings.Naming.Canonical
import SceneBindings.Naming.DefaultName
import SceneBindings.Naming.Identifier

/-!
The name transforms on strings.
-/

namespace SceneBindings.Name

def ofChars (f : List Char → List Char) (s : String) : String := String.ofList (f s.toList)

def cleanup : String → String := ofChars Naming.cleanup
def pascal : String → String := ofChars Naming.pascal
def stripMarker (own : Option String) : String → String :=
  ofChars (Naming.stripMarker (own.map String.toList))
def isStandardized (s : String) (c : Capability) : Bool := Naming.isStandardized s.toList c
def normalize (s : String) (c : Capability) (force : Bool) : String :=
  ofChars (Naming.normalize · c force) s
def withoutTypeSuffix : String → String := ofChars Naming.withoutTypeSuffix
def looksLikePanel (s : String) : Bool := Naming.looksLikePanel s.toList
def sanitize : String → String := ofChars Naming.sanitize
def snake : String → String := ofChars Naming.snake
def escapeKeyword : String → String := ofChars Naming.escapeKeyword
def isDefaultName (s : String) : Bool := Naming.isDefaultName s.toList
def lower : String → String := ofChars Text.lower
def isBlank (s : String) : Bool := s.toList.all Text.isBlank
def trim : String → String := ofChars Text.trim

end SceneBindings.Name
