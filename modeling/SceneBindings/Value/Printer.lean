import SceneBindings.Text.Quoted
import SceneBindings.Value.Basic

/-!
The written form of a value: JSON on one line. Controls are escaped and all other characters stand
for themselves; a number that is no decimal is written with a leading point.
-/

namespace SceneBindings.Value

def writeChar (c : Char) : List Char :=
  if c = '"' ∨ c = '\\' then ['\\', c]
  else if c = '\n' then ['\\', 'n']
  else if c = '\r' then ['\\', 'r']
  else if c = '\t' then ['\\', 't']
  else if c.toNat < 0x20 ∨ (0x7f ≤ c.toNat ∧ c.toNat < 0xa0) then
    '\\' :: 'u' :: Text.Quoted.hex 4 c.toNat
  else [c]

def textChars (s : String) : List Char := '"' :: s.toList.flatMap writeChar ++ ['"']

def floatChars : Binary64 → List Char
  | .nan => ".nan".toList
  | .infinite true => "-.inf".toList
  | .infinite false => ".inf".toList
  | x => x.text.toList

mutual

def chars : Value → List Char
  | null => "null".toList
  | bool b => (if b then "true" else "false").toList
  | int i => (toString i).toList
  | float x => floatChars x
  | text s => textChars s
  | list xs => '[' :: itemChars [] xs ++ [']']
  | object fields => '\x7b' :: fieldChars [] fields ++ ['\x7d']

def itemChars (lead : List Char) : List Value → List Char
  | [] => []
  | x :: xs => lead ++ x.chars ++ itemChars [',', ' '] xs

def fieldChars (lead : List Char) : List (String × Value) → List Char
  | [] => []
  | (k, v) :: fs => lead ++ textChars k ++ ':' :: ' ' :: v.chars ++ fieldChars [',', ' '] fs

end

def write (v : Value) : String := String.ofList v.chars

end SceneBindings.Value
