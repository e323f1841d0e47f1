import SceneBindings.Capability
import SceneBindings.Naming.Cleanup
import SceneBindings.Naming.TypeMarker
import SceneBindings.Naming.Words

/-!
Canonical names: capitalized words and, last, the type word of the node's role.
-/

namespace SceneBindings.Naming

open Text

def typeWordChars? (c : Capability) : Option (List Char) := c.typeWord?.map String.toList

/-- The name carries the type word or its abbreviation at one end. -/
def carriesType (word name : List Char) : Bool :=
  endsWith (lower word) (lower name) ||
    (startsWith (lower word) (lower name) && word.length < name.length) ||
    abbreviations.any fun a =>
      lower a.2 == lower word &&
        (endsWith (lower a.1) (lower name) || startsWith (lower a.1) (lower name))

/-- A clean name that already carries the type of its role. -/
def isStandardized (name : List Char) (c : Capability) : Bool :=
  match typeWordChars? c with
  | none => false
  | some word => !name.isEmpty && cleanup name == name && carriesType word name

/-- The canonical name for a type word. -/
def withType (word name : List Char) : List Char :=
  let base := pascal (stripMarker (some word) (cleanup name))
  if base.isEmpty then word else base ++ '_' :: word

/-- The canonical name of a node. A standardized name stays unless `force` is set; roles without a
type word keep their names. -/
def normalize (name : List Char) (c : Capability) (force : Bool) : List Char :=
  match typeWordChars? c with
  | none => name
  | some word => if !force && isStandardized name c then name else withType word name

def suffixTypes : List (List Char) := knownTypes.take 9

/-- An abbreviation at the end of a name, with the underscore before it if there is one. -/
def shortSuffix? (name short : List Char) : Option (List Char) :=
  if endsWith ('_' :: lower short) (lower name) then some (dropLast (short.length + 1) name)
  else if endsWith (lower short) (lower name) then some (dropLast short.length name)
  else none

def typeSuffix? (name word : List Char) : Option (List Char) :=
  if endsWith (lower word) (lower name) && word.length < name.length then
    some (dropLast word.length name)
  else none

/-- The name without a type word or abbreviation at its end. -/
def withoutTypeSuffix (name : List Char) : List Char :=
  (suffixTypes.findSome? (joinedSuffix? name) <|>
    suffixTypes.findSome? (typeSuffix? name) <|>
    abbreviations.findSome? fun a => shortSuffix? name a.1).getD name

def looksLikePanel (name : List Char) : Bool := endsWith "panel".toList (lower name)

end SceneBindings.Naming
