import SceneBindings.Text.Affix
import SceneBindings.Text.Case

/-!
Marks that a name carries of its widget type: a type word or its abbreviation, before or after the
rest of the name.
-/

namespace SceneBindings.Naming

open Text

/-- The type words that a name may carry, in the order in which they are tried. -/
def knownTypes : List (List Char) :=
  ["Button".toList, "Toggle".toList, "Slider".toList, "Panel".toList, "Text".toList,
    "Image".toList, "Dropdown".toList, "InputField".toList, "ScrollView".toList, "Label".toList,
    "Field".toList]

/-- Abbreviations and the type words that they stand for. -/
def abbreviations : List (List Char × List Char) :=
  [("BTN".toList, "Button".toList), ("TXT".toList, "Text".toList), ("IMG".toList, "Image".toList),
    ("PNL".toList, "Panel".toList), ("TGL".toList, "Toggle".toList),
    ("SLD".toList, "Slider".toList), ("INP".toList, "InputField".toList),
    ("DRP".toList, "Dropdown".toList), ("SCRV".toList, "ScrollView".toList)]

def upperAt (i : Nat) (s : List Char) : Bool := (s[i]?.map isUpper).getD false

/-- The name is the type word. -/
def whole? (name word : List Char) : Option (List Char) :=
  if lower name = lower word then some [] else none

/-- `rest_Word` -/
def joinedSuffix? (name word : List Char) : Option (List Char) :=
  if endsWith ('_' :: lower word) (lower name) then some (dropLast (word.length + 1) name)
  else none

/-- `WordRest` -/
def gluedPrefix? (name word : List Char) : Option (List Char) :=
  if startsWith (lower word) (lower name) && upperAt word.length name then
    some (name.drop word.length)
  else none

/-- `Word_rest` -/
def joinedPrefix? (name word : List Char) : Option (List Char) :=
  if startsWith (lower word ++ ['_']) (lower name) then some (name.drop (word.length + 1))
  else none

/-- The `n` last characters begin a word: the first of them is large and the one before is not. -/
def wordStartsAtLast (n : Nat) (name : List Char) : Bool :=
  upperAt (name.length - n) name && !upperAt (name.length - n - 1) name

/-- `restWord` -/
def gluedSuffix? (name word : List Char) : Option (List Char) :=
  if word.length < name.length && endsWith (lower word) (lower name) &&
      wordStartsAtLast word.length name then
    some (dropLast word.length name)
  else none

/-- An abbreviation after an underscore, as a last word or before a word. -/
def abbreviated? (name short : List Char) : Option (List Char) :=
  if name.length ≤ short.length then none
  else if endsWith ('_' :: lower short) (lower name) then some (dropLast (short.length + 1) name)
  else if endsWith (lower short) (lower name) && wordStartsAtLast short.length name then
    some (dropLast short.length name)
  else if startsWith (lower short) (lower name) &&
      (upperAt short.length name || name[short.length]? == some '_') then
    some ((name.drop short.length).dropWhile (· == '_'))
  else none

/-- The name without one mark of the given types, or nothing if it carries none. -/
def stripOne? (types : List (List Char)) (name : List Char) : Option (List Char) :=
  types.findSome? (whole? name) <|>
    types.findSome? (joinedSuffix? name) <|>
    types.findSome? (gluedPrefix? name) <|>
    types.findSome? (joinedPrefix? name) <|>
    types.findSome? (gluedSuffix? name) <|>
    (abbreviations.filter fun a => types.contains a.2).findSome? fun a => abbreviated? name a.1

/-- The name without one mark of its type. The node's own type word comes before the others. -/
def stripMarker (own : Option (List Char)) (name : List Char) : List Char :=
  let byOwn :=
    match own with
    | some w => if w.isEmpty then none else stripOne? [w] name
    | none => none
  (byOwn <|> stripOne? knownTypes name).getD name

end SceneBindings.Naming
