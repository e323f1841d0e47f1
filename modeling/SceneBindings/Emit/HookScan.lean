import SceneBindings.Emit.Signature
import SceneBindings.Text.Affix
import SceneBindings.Text.Word

/-!
Reading hook names back from a unit. A hook is a definition whose name begins with `on_` and whose
first parameter begins with `self`; only white space may stand between it and the line start before.
-/

namespace SceneBindings.HookScan

open Text

def expect? : List Char → List Char → Option (List Char)
  | [], s => some s
  | _ :: _, [] => none
  | p :: ps, c :: s => if p = c then expect? ps s else none

def skipBlanks (s : List Char) : List Char := s.dropWhile isBlank

/-- The white space at the head of a text is not empty. -/
def skipGap? : List Char → Option (List Char)
  | [] => none
  | c :: r => if isBlank c then some (skipBlanks r) else none

/-- A hook at the head of a text, and what follows it. -/
def hookAt? (s : List Char) : Option (List Char × List Char) := do
  let r ← expect? "def".toList (skipBlanks s)
  let r ← skipGap? r
  let r ← expect? "on_".toList r
  let tail := r.takeWhile isWord
  let r ← if tail.isEmpty then none else expect? ['('] (skipBlanks (r.dropWhile isWord))
  let r ← expect? "self".toList (skipBlanks r)
  return ("on_".toList ++ tail, r)

/-- The hooks in a text, of which `skip` characters belong to a hook already read. -/
def scanFrom (skip : Nat) (lineStart : Bool) : List Char → List (List Char)
  | [] => []
  | c :: r =>
    let next := c == '\n'
    match skip with
    | n + 1 => scanFrom n next r
    | 0 =>
      match if lineStart then hookAt? (c :: r) else none with
      | some (name, rest) => name :: scanFrom (r.length - rest.length) next r
      | none => scanFrom 0 next r

/-- The hook names in a text in order of appearance. -/
def scan (text : String) : List String := (scanFrom 0 true text.toList).map String.ofList

/-- The hook names in a text, each once, in alphabetical order. -/
def names (text : String) : List String := SignatureDiff.sorted (scan text)

end SceneBindings.HookScan
