/-!
Floating-point numbers of 53 significant bits, held exactly. A finite number is a mantissa times a
power of two; rounding goes to the nearest number, a tie to the even mantissa.
-/

namespace SceneBindings

/-- A finite number is `± mantissa * 2 ^ exponent` with `mantissa < 2 ^ 53` and
`-1074 ≤ exponent ≤ 971`; the mantissa has all 53 bits unless the exponent is `-1074`. -/
inductive Binary64 where
  | finite (negative : Bool) (mantissa : Nat) (exponent : Int)
  | infinite (negative : Bool)
  | nan
  deriving DecidableEq, Repr

namespace Binary64

def pow2 (k : Nat) : Nat := Nat.pow 2 k

def pow10 (k : Nat) : Nat := Nat.pow 10 k

def minExponent : Int := -1074

def zero : Binary64 := finite false 0 minExponent

/-- The quotient rounded to the nearest integer, a tie to the even one. -/
def divRound (n d : Nat) : Nat :=
  let q := n / d
  let r := n % d
  if 2 * r < d then q else if d < 2 * r then q + 1 else q + q % 2

/-- A fraction over a power of two, as numerator and denominator. -/
def overPower (n d : Nat) (e : Int) : Nat × Nat :=
  if 0 ≤ e then (n, d * pow2 e.toNat) else (n * pow2 (-e).toNat, d)

/-- The number nearest to `± n / d`. -/
def ofFraction (negative : Bool) (n d : Nat) : Binary64 :=
  if n = 0 ∨ d = 0 then finite negative 0 minExponent
  else
    let guess := max ((n.log2 : Int) - d.log2 - 53) minExponent
    let at0 := overPower n d guess
    let e := if pow2 53 ≤ at0.1 / at0.2 then guess + 1 else guess
    let at1 := overPower n d e
    let m := divRound at1.1 at1.2
    let (m, e) := if m = pow2 53 then (pow2 52, e + 1) else (m, e)
    if 971 < e then infinite negative else finite negative m e

/-- The number nearest to `± n * 10 ^ e`. Exponents beyond the range of the type are cut short. -/
def ofDecimal (negative : Bool) (n : Nat) (e : Int) : Binary64 :=
  if n = 0 then finite negative 0 minExponent
  else if 400 < e then infinite negative
  else if 0 ≤ e then ofFraction negative (n * pow10 e.toNat) 1
  else if e < -(400 + 4 * (n.log2 : Int)) then finite negative 0 minExponent
  else ofFraction negative n (pow10 (-e).toNat)

def ofInt (i : Int) : Binary64 := ofFraction (decide (i < 0)) i.natAbs 1

/-- The finite number nearest to an integer, unless the integer is too large for the type. -/
def ofInt? (i : Int) : Option Binary64 :=
  match ofInt i with
  | finite negative m e => some (finite negative m e)
  | _ => none

/-- The integer that a number equals, if there is one. -/
def integral? : Binary64 → Option Int
  | finite negative m e =>
    let n : Option Nat :=
      if 0 ≤ e then some (m * pow2 e.toNat)
      else if m % pow2 (-e).toNat = 0 then some (m / pow2 (-e).toNat)
      else none
    n.map fun n => if negative then -(n : Int) else n
  | _ => none

/-- The place of a number on the extended line, a finite one as an integer times a power of two. -/
inductive Place where
  | low
  | at (n e : Int)
  | high

def place? : Binary64 → Option Place
  | finite negative m e => some (.at (if negative then -(m : Int) else m) e)
  | infinite true => some .low
  | infinite false => some .high
  | nan => none

def placeInt (i : Int) : Place := .at i 0

/-- Two finite places as integers in the finer of their two units. -/
def Place.align (a e b f : Int) : Int × Int :=
  (a * pow2 (e - min e f).toNat, b * pow2 (f - min e f).toNat)

def Place.lt : Place → Place → Bool
  | .low, .low => false
  | .low, _ => true
  | .at a e, .at b f => (align a e b f).1 < (align a e b f).2
  | .at _ _, .high => true
  | _, _ => false

def Place.eq : Place → Place → Bool
  | .low, .low => true
  | .high, .high => true
  | .at a e, .at b f => (align a e b f).1 == (align a e b f).2
  | _, _ => false

/-! ### Shortest decimal text -/

def digitCount (n : Nat) : Nat := (Nat.toDigits 10 n).length

/-- The power of ten of the leading digit of `n / d`, for `0 < n`, `0 < d`. -/
def leadingPower (n d : Nat) : Int :=
  if d ≤ n then (digitCount (n / d) : Int) - 1
  else
    match (List.range 400).find? fun j => d ≤ n * pow10 (j + 1) with
    | some j => -((j : Int) + 1)
    | none => -400

/-- A fraction over a power of ten, as numerator and denominator. -/
def overTen (n d : Nat) (e : Int) : Nat × Nat :=
  if 0 ≤ e then (n, d * pow10 e.toNat) else (n * pow10 (-e).toNat, d)

/-- Of the decimals with `p` digits that read back as `x = n / d`, the one nearest to it; of two
that are as near, the one with an even last digit. -/
def decimalOf? (x : Binary64) (n d p : Nat) : Option (Nat × Int) :=
  let g := leadingPower n d - p + 1
  let (a, b) := overTen n d g
  let q := a / b
  let down := ofDecimal false q g == x
  let up := ofDecimal false (q + 1) g == x
  if down && up then some (divRound a b, g)
  else if down then some (q, g)
  else if up then some (q + 1, g)
  else none

/-- The fewest digits that read back as the number, and the power of ten of the last one. -/
def shortest (m : Nat) (e : Int) : Nat × Int :=
  let x := finite false m e
  let n := if 0 ≤ e then m * pow2 e.toNat else m
  let d := if 0 ≤ e then 1 else pow2 (-e).toNat
  match (List.range 17).findSome? fun p => decimalOf? x n d (p + 1) with
  | some r => r
  | none => (0, 0)

/-- Digits and decimal point: positional from `10 ^ -4` to below `10 ^ 16`, else scientific with an
exponent of at least two digits. -/
def layout (digits : List Char) (power : Int) : List Char :=
  let point : Int := digits.length + power
  if -4 < point ∧ point ≤ 16 then
    if point ≤ 0 then '0' :: '.' :: List.replicate (-point).toNat '0' ++ digits
    else if digits.length ≤ point.toNat then
      digits ++ List.replicate (point.toNat - digits.length) '0' ++ ['.', '0']
    else digits.take point.toNat ++ '.' :: digits.drop point.toNat
  else
    let x := point - 1
    let xs := Nat.toDigits 10 x.natAbs
    digits.take 1 ++ (if digits.length ≤ 1 then [] else '.' :: digits.drop 1) ++
      'e' :: (if x < 0 then '-' else '+') :: (if xs.length < 2 then '0' :: xs else xs)

/-- Without the zeros that follow the last significant digit. -/
def trimZeros (n : Nat) (power : Int) : List Char × Int :=
  let ds := Nat.toDigits 10 n
  let kept := (ds.reverse.dropWhile (· == '0')).reverse
  (kept, power + (ds.length - kept.length : Nat))

def text : Binary64 → String
  | nan => "nan"
  | infinite true => "-inf"
  | infinite false => "inf"
  | finite negative m e =>
    let body :=
      if m = 0 then ['0', '.', '0']
      else
        let s := shortest m e
        let t := trimZeros s.1 s.2
        layout t.1 t.2
    String.ofList (if negative then '-' :: body else body)

end Binary64

end SceneBindings
