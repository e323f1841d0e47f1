/-!
White space, and text seen as the words between it.
-/

namespace SceneBindings.Text

/-- Controls that separate, the spaces of every width, and the line and paragraph separators. -/
def isBlank (c : Char) : Bool :=
  let n := c.toNat
  (0x9 ≤ n && n ≤ 0xd) || (0x1c ≤ n && n ≤ 0x20) || n == 0x85 || n == 0xa0 || n == 0x1680 ||
    (0x2000 ≤ n && n ≤ 0x200a) || n == 0x2028 || n == 0x2029 || n == 0x202f || n == 0x205f ||
    n == 0x3000

def dropLeading (p : Char → Bool) (s : List Char) : List Char := s.dropWhile p

def dropTrailing (p : Char → Bool) (s : List Char) : List Char := (s.reverse.dropWhile p).reverse

/-- The text without the white space at both ends. -/
def trim (s : List Char) : List Char := dropTrailing isBlank (dropLeading isBlank s)

/-- The maximal runs of characters that hold no separator and no place to cut. -/
def wordsCut (sep : Char → Bool) (cut : Char → Char → Bool) : List Char → List (List Char)
  | [] => []
  | c :: r =>
    if sep c then wordsCut sep cut r
    else
      match r, wordsCut sep cut r with
      | d :: _, w :: ws => if sep d || cut c d then [c] :: w :: ws else (c :: w) :: ws
      | _, ws => [c] :: ws

/-- The maximal runs of characters that are no separators. -/
def wordsBy (sep : Char → Bool) : List Char → List (List Char) := wordsCut sep fun _ _ => false

/-- Pieces joined by one separator between neighbours. -/
def joinWith (sep : List Char) : List (List Char) → List Char
  | [] => []
  | [w] => w
  | w :: ws => w ++ sep ++ joinWith sep ws

/-- The pieces between the occurrences of a separator, empty ones included. -/
def splitAt (sep : Char) : List Char → List (List Char)
  | [] => [[]]
  | c :: r =>
    if c = sep then [] :: splitAt sep r
    else
      match splitAt sep r with
      | [] => [[c]]
      | w :: ws => (c :: w) :: ws

end SceneBindings.Text
