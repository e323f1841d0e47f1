import SceneBindings.Text.Printable

/-!
String literals of the emitted units. Single quotes enclose the text unless it holds a single quote
and no double quote; what does not print is escaped by its code.
-/

namespace SceneBindings.Text.Quoted

def hexDigit (n : Nat) : Char := if n < 10 then Char.ofNat (48 + n) else Char.ofNat (87 + n)

/-- The `width` last hexadecimal digits of a number. -/
def hex : Nat → Nat → List Char
  | 0, _ => []
  | width + 1, n => hex width (n / 16) ++ [hexDigit (n % 16)]

def escapeCode (n : Nat) : List Char :=
  if n < 0x100 then '\\' :: 'x' :: hex 2 n
  else if n < 0x10000 then '\\' :: 'u' :: hex 4 n
  else '\\' :: 'U' :: hex 8 n

def encodeChar (quote c : Char) : List Char :=
  if c = quote ∨ c = '\\' then ['\\', c]
  else if c = '\n' then ['\\', 'n']
  else if c = '\r' then ['\\', 'r']
  else if c = '\t' then ['\\', 't']
  else if isPrintable c then [c]
  else escapeCode c.toNat

def quoteOf (s : List Char) : Char :=
  if s.contains '\'' && !s.contains '"' then '"' else '\''

def encode (s : List Char) : List Char :=
  quoteOf s :: s.flatMap (encodeChar (quoteOf s)) ++ [quoteOf s]

end SceneBindings.Text.Quoted

namespace SceneBindings.Text

/-- The literal that denotes a string. -/
def quoted (s : String) : String := String.ofList (Quoted.encode s.toList)

end SceneBindings.Text
