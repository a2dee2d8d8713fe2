/-! # White space

White space is what Unicode's `White_Space` property lists. Trimming, the first word of a text and
the cut between two words all go by this one predicate. Texts are lists of characters. -/

namespace JumpArrows.Text

/-- The twenty-five code points with the `White_Space` property. -/
def isBlank (c : Char) : Bool :=
  let n := c.toNat
  (0x09 ≤ n && n ≤ 0x0D) || n == 0x20 || n == 0x85 || n == 0xA0 || n == 0x1680 ||
    (0x2000 ≤ n && n ≤ 0x200A) || n == 0x2028 || n == 0x2029 || n == 0x202F || n == 0x205F ||
    n == 0x3000

def dropEndWhile (p : Char → Bool) (s : List Char) : List Char :=
  (s.reverse.dropWhile p).reverse

def trim (s : List Char) : List Char :=
  dropEndWhile isBlank (s.dropWhile isBlank)

def beforeBlank (s : List Char) : List Char :=
  s.takeWhile (!isBlank ·)

/-- The text after its first white space character, or nothing if it has none. -/
def afterBlank (s : List Char) : List Char :=
  (s.dropWhile (!isBlank ·)).tail

/-- The first word, empty if the text has none. -/
def firstWord (s : List Char) : List Char :=
  beforeBlank (s.dropWhile isBlank)

/-- True of the empty text and of white space alone. -/
def isBlankText (s : List Char) : Bool :=
  s.all isBlank

end JumpArrows.Text
