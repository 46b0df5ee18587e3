/-!
# Text/Fill — words in lines

Words are put into lines one after the other, as many into a line as fit with a blank between them.  A word
that is too long for every line has one of its own.
-/

namespace DicePool.Text

/-- The line so far, and one word more. -/
def extend (line word : List Char) : List Char :=
  if line.isEmpty then word else line ++ ' ' :: word

/-- The lines of words, after a line that is begun.  That one is up to `width` long and the others up to
`next`. -/
def fillAfter (next width : Nat) (line : List Char) : List (List Char) → List (List Char)
  | [] => if line.isEmpty then [] else [line]
  | word :: rest =>
    if line.isEmpty || (extend line word).length ≤ width then
      fillAfter next width (extend line word) rest
    else line :: fillAfter next next word rest

/-- The lines of words: the first is up to `width` long and the others up to `next`. -/
def fill (width next : Nat) (words : List String) : List String :=
  (fillAfter next width [] (words.map String.toList)).map String.ofList

end DicePool.Text
