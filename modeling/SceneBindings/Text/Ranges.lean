/-!
Sets of code points given as ranges, both ends included.
-/

namespace SceneBindings.Text

def inRanges (ranges : List (Nat × Nat)) (n : Nat) : Bool :=
  ranges.any fun r => r.1 ≤ n && n ≤ r.2

end SceneBindings.Text
