import SceneBindings.Number.Numeral
import SceneBindings.Value.Basic

/-!
Reading a value from its written form. Object fields keep their order, and a number is an integer
unless it has a fraction or a power of ten.
-/

namespace SceneBindings.Value

def isSpace (c : Char) : Bool := c == ' ' || c == '\n' || c == '\r' || c == '\t'

def skipSpace (s : List Char) : List Char := s.dropWhile isSpace

def hexValue? (c : Char) : Option Nat :=
  if c.isDigit then some (c.toNat - 48)
  else if 'a' ≤ c ∧ c ≤ 'f' then some (c.toNat - 87)
  else if 'A' ≤ c ∧ c ≤ 'F' then some (c.toNat - 55)
  else none

def code? (a b c d : Char) : Option Nat := do
  let a ← hexValue? a
  let b ← hexValue? b
  let c ← hexValue? c
  let d ← hexValue? d
  return ((a * 16 + b) * 16 + c) * 16 + d

def escaped? : Char → Option Char
  | '"' => some '"'
  | '\\' => some '\\'
  | '/' => some '/'
  | 'b' => some '\x08'
  | 'f' => some '\x0c'
  | 'n' => some '\n'
  | 'r' => some '\r'
  | 't' => some '\t'
  | _ => none

/-- The character that two surrogate halves stand for. -/
def joinSurrogates (high low : Nat) : Char :=
  Char.ofNat (0x10000 + (high - 0xd800) * 0x400 + (low - 0xdc00))

/-- The rest of a text after its opening quote. `high` is a half character that waits for its other
half. -/
def readText (high : Option Nat) : List Char → Option (List Char × List Char)
  | [] => none
  | '"' :: r => some ([], r)
  | '\\' :: 'u' :: a :: b :: c :: d :: r =>
    match code? a b c d with
    | none => none
    | some n =>
      if 0xd800 ≤ n ∧ n < 0xdc00 then readText (some n) r
      else
        let ch :=
          match high with
          | some h => if 0xdc00 ≤ n ∧ n < 0xe000 then joinSurrogates h n else Char.ofNat n
          | none => Char.ofNat n
        (readText none r).map fun p => (ch :: p.1, p.2)
  | '\\' :: e :: r =>
    match escaped? e with
    | none => none
    | some ch => (readText none r).map fun p => (ch :: p.1, p.2)
  | c :: r => (readText none r).map fun p => (c :: p.1, p.2)

def isNumberChar (c : Char) : Bool :=
  c.isDigit || c == '-' || c == '+' || c == '.' || c == 'e' || c == 'E'

def readNumber (s : List Char) : Option (Value × List Char) :=
  let body := s.takeWhile isNumberChar
  let rest := s.dropWhile isNumberChar
  if body.any fun c => c == '.' || c == 'e' || c == 'E' then
    (Numeral.float? body).map fun x => (float x, rest)
  else (Numeral.int? body).map fun i => (int i, rest)

def readWord : List Char → Option (Value × List Char)
  | 'n' :: 'u' :: 'l' :: 'l' :: r => some (null, r)
  | 't' :: 'r' :: 'u' :: 'e' :: r => some (bool true, r)
  | 'f' :: 'a' :: 'l' :: 's' :: 'e' :: r => some (bool false, r)
  | '.' :: 'n' :: 'a' :: 'n' :: r => some (float .nan, r)
  | '.' :: 'i' :: 'n' :: 'f' :: r => some (float (.infinite false), r)
  | '-' :: '.' :: 'i' :: 'n' :: 'f' :: r => some (float (.infinite true), r)
  | _ => none

mutual

/-- Reads one value; the first argument bounds the number of its parts. -/
def readValue : Nat → List Char → Option (Value × List Char)
  | 0, _ => none
  | n + 1, s =>
    match skipSpace s with
    | '"' :: r => (readText none r).map fun p => (text (String.ofList p.1), p.2)
    | '[' :: r =>
      match skipSpace r with
      | ']' :: r' => some (list [], r')
      | r' => (readItems n r').map fun p => (list p.1, p.2)
    | '\x7b' :: r =>
      match skipSpace r with
      | '\x7d' :: r' => some (object [], r')
      | r' => (readFields n r').map fun p => (object p.1, p.2)
    | r =>
      match readWord r with
      | some p => some p
      | none => readNumber r

def readItems : Nat → List Char → Option (List Value × List Char)
  | 0, _ => none
  | n + 1, s =>
    match readValue n s with
    | none => none
    | some (v, r) =>
      match skipSpace r with
      | ',' :: r' => (readItems n r').map fun p => (v :: p.1, p.2)
      | ']' :: r' => some ([v], r')
      | _ => none

def readFields : Nat → List Char → Option (List (String × Value) × List Char)
  | 0, _ => none
  | n + 1, s =>
    match skipSpace s with
    | '"' :: r =>
      match readText none r with
      | none => none
      | some (k, r) =>
        match skipSpace r with
        | ':' :: r =>
          match readValue n r with
          | none => none
          | some (v, r) =>
            match skipSpace r with
            | ',' :: r' => (readFields n r').map fun p => ((String.ofList k, v) :: p.1, p.2)
            | '\x7d' :: r' => some ([(String.ofList k, v)], r')
            | _ => none
        | _ => none
    | _ => none

end

/-- The value that a whole text writes; blank text writes null. -/
def ofChars? (s : List Char) : Option Value :=
  let cs := skipSpace s
  if cs.isEmpty then some null
  else
    match readValue (cs.length + 1) cs with
    | some (v, r) => if (skipSpace r).isEmpty then some v else none
    | none => none

def read? (s : String) : Option Value := ofChars? s.toList

end SceneBindings.Value
