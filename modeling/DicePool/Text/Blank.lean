/-!
# Text/Blank — blank characters, trimming and words

`isBlank` is the white space of Unicode 14 together with the four information separators
`U+001C`–`U+001F`, which also end words.  Zero width spaces are no blanks.  `strip` trims both
ends, and `words` cuts a text into its maximal runs of other characters.
-/

namespace DicePool.Text

/-- Whether the character is white space. -/
def isWhiteSpace (c : Char) : Bool :=
  let n := c.toNat
  n == 0x20 || (0x09 ≤ n && n ≤ 0x0d) || n == 0x85 || n == 0xa0 || n == 0x1680
    || (0x2000 ≤ n && n ≤ 0x200a) || n == 0x2028 || n == 0x2029 || n == 0x202f || n == 0x205f
    || n == 0x3000

/-- Whether the character separates words. -/
def isBlank (c : Char) : Bool :=
  isWhiteSpace c || (0x1c ≤ c.toNat && c.toNat ≤ 0x1f)

/-- Drops from the end while the test holds. -/
def dropEndWhile (p : Char → Bool) (s : List Char) : List Char :=
  (s.reverse.dropWhile p).reverse

/-- The text without characters of a class at its two ends. -/
def stripBy (p : Char → Bool) (s : List Char) : List Char :=
  dropEndWhile p (s.dropWhile p)

/-- The text without the blanks at its two ends. -/
def strip : List Char → List Char :=
  stripBy isBlank

/-- The maximal runs of characters that are not blank. -/
def words (s : List Char) : List (List Char) :=
  (s.splitOnP isBlank).filter fun w => !w.isEmpty

/-- Joins words by a separator. -/
def joinWith (sep : List Char) (ws : List (List Char)) : List Char :=
  sep.intercalate ws

end DicePool.Text
