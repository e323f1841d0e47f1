import SceneBindings.Text.CaseTable

/-!
Small and large forms of a text. A letter may have a form of several characters, and a sigma that
ends a word has a small form of its own.
-/

namespace SceneBindings.Text

def isUpper (c : Char) : Bool :=
  if c.toNat < 0x80 then c.isUpper
  else upperCaseRuns.any fun r =>
    r.first ≤ c.toNat && c.toNat ≤ r.last && (c.toNat - r.first) % r.step == 0

def isCased (c : Char) : Bool :=
  if c.toNat < 0x80 then c.isAlpha else inRanges casedRanges c.toNat

def isCaseIgnorable (c : Char) : Bool := inRanges caseIgnorableRanges c.toNat

/-- The small form of a letter that stands alone. -/
def lowerLetter (c : Char) : List Char :=
  if c.toNat < 0x80 then [c.toLower]
  else if c.toNat = 0x130 then ['i', '\u0307']
  else [shiftCase lowerRuns c]

/-- The large form of a letter. -/
def upperLetter (c : Char) : List Char :=
  if c.toNat < 0x80 then [c.toUpper]
  else
    match upperExpansions.find? (·.1 == c.toNat) with
    | some e => e.2.map Char.ofNat
    | none => [shiftCase upperRuns c]

/-- Whether a letter with case follows, marks passed over. -/
def casedNext (s : List Char) : Bool :=
  match s.dropWhile isCaseIgnorable with
  | [] => false
  | c :: _ => isCased c

/-- The small form of a text that follows a cased letter, if `cased` holds. -/
def lowerAfter (cased : Bool) : List Char → List Char
  | [] => []
  | c :: r =>
    (if c = 'Σ' then [if cased && !casedNext r then 'ς' else 'σ'] else lowerLetter c) ++
      lowerAfter (if isCaseIgnorable c then cased else isCased c) r

def lower (s : List Char) : List Char := lowerAfter false s

def upper (s : List Char) : List Char := s.flatMap upperLetter

/-- Whether a character matches a small ASCII letter when case is ignored. Besides the large letter
this holds of the dotted and the dotless `i`, the long `s` and the Kelvin sign. -/
def matchesLetter (p c : Char) : Bool :=
  c.toLower == p || (p == 'i' && (c.toNat == 0x130 || c.toNat == 0x131)) ||
    (p == 's' && c.toNat == 0x17f) || (p == 'k' && c.toNat == 0x212a)

/-- What follows a word written in small ASCII letters, case ignored, at the head of a text. -/
def dropWord? : List Char → List Char → Option (List Char)
  | [], s => some s
  | _ :: _, [] => none
  | p :: ps, c :: s => if matchesLetter p c then dropWord? ps s else none

end SceneBindings.Text
