import SceneBindings.Naming.Cleanup

/-!
Names that an editor gives to new objects: a bare type word or `GameObject`, with or without a
counter, and names that begin with `New`. Case is ignored.
-/

namespace SceneBindings.Naming

open Text

def defaultWords : List (List Char) :=
  ["button".toList, "inputfield".toList, "text".toList, "image".toList, "toggle".toList,
    "slider".toList, "dropdown".toList, "scrollrect".toList, "panel".toList, "gameobject".toList]

/-- The text is over, one final line break allowed. -/
def atEnd (s : List Char) : Bool := s = [] || s = ['\n']

def isCounterTail (s : List Char) : Bool :=
  let r := s.drop (blanks s)
  match counterDigits? r with
  | some n => atEnd (r.drop (n + 2))
  | none => false

def isBareWord (name word : List Char) : Bool :=
  match dropWord? word name with
  | some r => atEnd r || isCounterTail r
  | none => false

def startsNew (name : List Char) : Bool :=
  match dropWord? "new".toList name with
  | some (c :: _) => isBlank c
  | _ => false

def isDefaultName (name : List Char) : Bool := defaultWords.any (isBareWord name) || startsNew name

end SceneBindings.Naming
