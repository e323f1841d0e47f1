/-!
Emitted text as a list of lines.
-/

namespace SceneBindings.Emit

/-- Each line with a line break after it. -/
def unlines : List String → String
  | [] => ""
  | l :: ls => l ++ "\n" ++ unlines ls

/-- The lines without the empty ones at the end. -/
def dropBlankEnd (ls : List String) : List String :=
  (ls.reverse.dropWhile (·.isEmpty)).reverse

/-- Lines that are there only under a condition. -/
def linesIf (b : Bool) (ls : List String) : List String := if b then ls else []

/-- The header line that says when a unit was made. -/
def stampLine : Option String → List String
  | some t => ["# Generated on: " ++ t]
  | none => []

end SceneBindings.Emit
