import SceneBindings.Number.Binary64
import SceneBindings.Text.Blank
import SceneBindings.Text.Digit

/-!
Numbers as they are written: signs, digit groups joined by an underscore, a fraction and a power of
ten.
-/

namespace SceneBindings.Numeral

open Text

/-- White space that may stand around a number; the separators of fields and records may not. -/
def isMargin (c : Char) : Bool := isBlank c && !(0x1c ≤ c.toNat && c.toNat ≤ 0x1f)

/-- A text without the white space that may stand around a number. -/
def inner (s : List Char) : List Char :=
  dropTrailing isMargin (dropLeading isMargin s)

def startsWithDigit : List Char → Bool
  | [] => false
  | c :: _ => c.isDigit

/-- The digits at the head of a text and what follows them. An underscore is passed over where it
stands between two digits, the one before it being the last one read. -/
def digitsAfter (digitBefore : Bool) : List Char → List Char × List Char
  | [] => ([], [])
  | c :: r =>
    if c.isDigit then
      let p := digitsAfter true r
      (c :: p.1, p.2)
    else if c = '_' ∧ digitBefore ∧ startsWithDigit r then digitsAfter false r
    else ([], c :: r)

def digits (s : List Char) : List Char × List Char := digitsAfter false s

def value (ds : List Char) : Nat := ds.foldl (fun n c => 10 * n + (c.toNat - 48)) 0

def sign : List Char → Bool × List Char
  | '-' :: r => (true, r)
  | '+' :: r => (false, r)
  | r => (false, r)

/-- The power of ten after an `e`, or nothing if the text ends first. -/
def exponent? : List Char → Option Int
  | [] => some 0
  | c :: r =>
    if c = 'e' ∨ c = 'E' then
      let (neg, r) := sign r
      let (ds, rest) := digits r
      if ds.isEmpty || !rest.isEmpty then none
      else some (if neg then -(value ds : Int) else value ds)
    else none

def special? (s : List Char) : Option Bool :=
  let t := s.map Char.toLower
  if t = ['i', 'n', 'f'] ∨ t = ['i', 'n', 'f', 'i', 'n', 'i', 't', 'y'] then some true
  else if t = ['n', 'a', 'n'] then some false
  else none

/-- A number with an optional fraction and power of ten, an infinity or a non-number, with nothing
around it. -/
def bareFloat? (s : List Char) : Option Binary64 :=
  let (neg, r) := sign s
  match special? r with
  | some true => some (.infinite neg)
  | some false => some .nan
  | none =>
    let (whole, r) := digits r
    let (part, r) :=
      match r with
      | '.' :: r' => digits r'
      | _ => ([], r)
    if whole.isEmpty && part.isEmpty then none
    else
      (exponent? r).map fun e => .ofDecimal neg (value (whole ++ part)) (e - part.length)

/-- A float that white space may stand around. -/
def float? (s : List Char) : Option Binary64 := bareFloat? (inner s)

/-- Digits of any script written as ASCII digits. -/
def plainDigits (s : List Char) : List Char :=
  s.map fun c =>
    match digitValue? c with
    | some n => Char.ofNat (48 + n)
    | none => c

/-- A whole number. -/
def int? (s : List Char) : Option Int :=
  let (neg, r) := sign (inner s)
  let (ds, rest) := digits r
  if ds.isEmpty || !rest.isEmpty then none
  else some (if neg then -(value ds : Int) else value ds)

end SceneBindings.Numeral
