/-!
# Text/Escapes — texts without control sequences

A control sequence of a terminal begins with an escape character and a bracket.  Parameters follow it, which
are characters from `0` to `?`, then characters from the blank to `/`, and last one from `@` to `~`.
-/

namespace DicePool.Text

/-- Whether the character may be a parameter of a control sequence. -/
def isParameter (c : Char) : Bool :=
  '0' ≤ c && c ≤ '?'

/-- Whether the character may stand between the parameters of a control sequence and its end. -/
def isIntermediate (c : Char) : Bool :=
  ' ' ≤ c && c ≤ '/'

/-- Whether the character may end a control sequence. -/
def isFinal (c : Char) : Bool :=
  '@' ≤ c && c ≤ '~'

/-- What follows a control sequence whose escape character and bracket are past, if it is one. -/
def afterSequence? (s : List Char) : Option (List Char) :=
  match (s.dropWhile isParameter).dropWhile isIntermediate with
  | c :: rest => if isFinal c then some rest else none
  | [] => none

/-- The text without control sequences; `fuel` bounds its length. -/
def dropSequencesUpTo : Nat → List Char → List Char
  | fuel + 1, '\x1b' :: '[' :: rest => match afterSequence? rest with
    | some rest => dropSequencesUpTo fuel rest
    | none => '\x1b' :: dropSequencesUpTo fuel ('[' :: rest)
  | fuel + 1, c :: rest => c :: dropSequencesUpTo fuel rest
  | _, s => s

/-- The text without control sequences. -/
def dropSequences (s : List Char) : List Char :=
  dropSequencesUpTo s.length s

end DicePool.Text
