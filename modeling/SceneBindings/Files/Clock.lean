/-!
Points in time, to the second.
-/

namespace SceneBindings

structure Timestamp where
  year : Nat
  month : Nat
  day : Nat
  hour : Nat
  minute : Nat
  second : Nat
  deriving DecidableEq, Repr

namespace Timestamp

def pad (width n : Nat) : String :=
  let ds := Nat.toDigits 10 n
  String.ofList (List.replicate (width - ds.length) '0' ++ ds)

/-- `20240101120000` -/
def compact (t : Timestamp) : String :=
  pad 4 t.year ++ pad 2 t.month ++ pad 2 t.day ++ pad 2 t.hour ++ pad 2 t.minute ++ pad 2 t.second

/-- `2024-01-01T12:00:00` -/
def text (t : Timestamp) : String :=
  pad 4 t.year ++ "-" ++ pad 2 t.month ++ "-" ++ pad 2 t.day ++ "T" ++
    pad 2 t.hour ++ ":" ++ pad 2 t.minute ++ ":" ++ pad 2 t.second

/-- The numbers that the runs of digits of a text stand for. -/
def numbers (s : List Char) : List Nat :=
  let step (p : List Nat × Option Nat) (c : Char) : List Nat × Option Nat :=
    if c.isDigit then (p.1, some (10 * p.2.getD 0 + (c.toNat - 48)))
    else (p.1 ++ p.2.toList, none)
  let p := s.foldl step ([], none)
  p.1 ++ p.2.toList

/-- Reads `2024-01-01T12:00:00`; what is left out counts as zero, and fractions are passed over. -/
def ofString (s : String) : Timestamp :=
  let ns := numbers s.toList
  let at' (i default : Nat) : Nat := (ns[i]?).getD default
  ⟨at' 0 1, at' 1 1, at' 2 1, at' 3 0, at' 4 0, at' 5 0⟩

end Timestamp

end SceneBindings
