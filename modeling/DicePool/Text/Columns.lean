import DicePool.Text.Columns.Table
import DicePool.Text.Escapes
import DicePool.Text.Printable

/-!
# Text/Columns — how many columns a line takes on a screen

East Asian wide and full-width characters take two columns, marks and format characters none, and any
other character one.  Some characters are drawn together with others: a selector widens a picture, a skin
modifier or a second flag letter adds nothing, a joiner draws the next character into the picture
before it, and a consonant joined by a virama shares the cell of its neighbour.  Control sequences take no
column, but may move the cursor; a line is as wide as the cursor ever comes.
-/

namespace DicePool.Text

namespace Columns

/-! ## What a line is made of -/

/-- What a terminal does next. -/
inductive Step where
  /-- It draws a character. -/
  | draw (c : Char)
  /-- It moves the cursor forward. -/
  | right (n : Nat)
  /-- It moves the cursor back. -/
  | left (n : Nat)
  /-- It moves the cursor to the beginning of the line. -/
  | home
deriving DecidableEq, Repr

/-- What follows a string for the terminal: a text that ends at a bell, or at an escape character and a
backslash. -/
def afterString? (s : List Char) : Option (List Char) :=
  match s.dropWhile fun c => c != '\x07' && c != '\x1b' with
  | '\x07' :: rest => some rest
  | '\x1b' :: '\\' :: rest => some rest
  | _ => none

/-- The step of a control sequence, given what stands behind its bracket: only the cursor keys move. -/
def cursorStep (s : List Char) : List Step :=
  let ds := s.takeWhile Char.isDigit
  let n := if ds.isEmpty then 1 else ds.foldl (fun n c => 10 * n + (c.toNat - 48)) 0
  match s.drop ds.length with
  | 'C' :: _ => [.right n]
  | 'D' :: _ => [.left n]
  | _ => []

/-- The steps behind an escape character, and what follows them. -/
def escapeSteps (s : List Char) : List Step × List Char :=
  match s with
  | [] => ([], [])
  | c :: rest =>
    let whole? : Option (List Step × List Char) :=
      if c == '[' then (afterSequence? rest).map fun after => (cursorStep rest, after)
      else if [']', '_', 'P', '^'].contains c then (afterString? rest).map fun after => ([], after)
      else if c == '(' || c == ')' then match rest with
        | d :: after => if d == '\n' then none else some ([], after)
        | [] => none
      else none
    let isShort := ('@' ≤ c && c ≤ '_') || ['7', '8', '=', '>', 'g'].contains c
    whole?.getD ([], if isShort then rest else s)

/-- The steps of a line; `fuel` bounds its length. -/
def stepsUpTo : Nat → List Char → List Step
  | fuel + 1, c :: rest =>
    if c == '\x1b' then
      let (steps, after) := escapeSteps rest
      steps ++ stepsUpTo fuel after
    else if c == '\x08' then .left 1 :: stepsUpTo fuel rest
    else if c == '\r' then .home :: stepsUpTo fuel rest
    else if c.toNat < 0x20 || (0x7f ≤ c.toNat && c.toNat < 0xa0) then stepsUpTo fuel rest
    else .draw c :: stepsUpTo fuel rest
  | _, _ => []

/-- The steps of a line. -/
def steps (s : List Char) : List Step :=
  stepsUpTo s.length s

/-! ## The cursor -/

/-- The columns that a character takes on its own. -/
def ofChar (c : Char) : Nat :=
  if c.toNat < 0x300 then 1
  else if inRanges zeroWidthRanges c.toNat then 0
  else if inRanges wideRanges c.toNat then 2
  else 1

/-- Whether the character is a letter of flags, two of which make up one. -/
def isFlagLetter (c : Char) : Bool :=
  0x1f1e6 ≤ c.toNat && c.toNat ≤ 0x1f1ff

/-- Whether the character colours the skin of the picture before it. -/
def isSkin (c : Char) : Bool :=
  0x1f3fb ≤ c.toNat && c.toNat ≤ 0x1f3ff

/-- Where the cursor is, and what may still change the columns of what is drawn. -/
structure Cursor where
  /-- The column. -/
  column : Nat := 0
  /-- The greatest column so far. -/
  extent : Nat := 0
  /-- The last character that took columns. -/
  base : Option Char := none
  /-- Whether that character stands directly before the cursor. -/
  isAdjacent : Bool := false
  /-- Whether a spacing mark takes a column here. -/
  takesMark : Bool := false
  /-- Whether a virama stands before the cursor. -/
  isVirama : Bool := false
  /-- Whether joined consonants still lack their column. -/
  isConjunct : Bool := false
  /-- Whether a flag letter before the cursor lacks its second. -/
  isHalfFlag : Bool := false
  /-- Whether a joiner takes in the next character. -/
  isJoined : Bool := false

namespace Cursor

/-- Moves the cursor to a column. -/
def goTo (x : Cursor) (column : Nat) : Cursor :=
  { x with column, extent := max x.extent column }

/-- Moves the cursor forward. -/
def advance (x : Cursor) (n : Nat) : Cursor :=
  x.goTo (x.column + n)

/-- The cursor behind joined consonants. -/
def settle (x : Cursor) : Cursor :=
  if x.isConjunct then { x.advance 1 with isConjunct := false } else x

/-- The cursor behind a character that takes columns. -/
def put (x : Cursor) (c : Char) (n : Nat) : Cursor :=
  { x.settle.advance n with base := some c, isAdjacent := true, takesMark := true, isVirama := false }

/-- The cursor behind a character, whose neighbours are looked at. -/
def draw (before : Cursor) (c : Char) : Cursor :=
  let x := { before with isAdjacent := false, isHalfFlag := false }
  if before.isJoined then { x with isJoined := false }
  else if c == '\u200d' then
    if before.isVirama then x else { x with isJoined := true }
  else if c == '\ufe0f' then
    if before.isAdjacent && before.base.any fun b => inRanges selectableRanges b.toNat then
      x.advance 1
    else x
  else if isFlagLetter c && before.isHalfFlag then { x with base := some c }
  else if isSkin c && before.base.any fun b => inRanges pictureRanges b.toNat then x
  else if before.isVirama && inRanges consonantRanges c.toNat then
    { x with base := some c, isAdjacent := true, takesMark := true, isVirama := false,
             isConjunct := true }
  else
    let n := ofChar c
    if 0 < n then { x.put c n with isHalfFlag := isFlagLetter c }
    else if before.takesMark && inRanges spacingMarkRanges c.toNat then
      { x.advance 1 with takesMark := false, isVirama := false, isConjunct := false }
    else { x with isVirama := inRanges viramaRanges c.toNat }

/-- The cursor after a step. -/
def take (x : Cursor) : Step → Cursor
  | .draw c => x.draw c
  | .right n => { x.advance n with isAdjacent := false }
  | .left n => { x.goTo (x.column - n) with isAdjacent := false }
  | .home => { x.goTo 0 with isAdjacent := false }

end Cursor

end Columns

/-- The columns that a line takes. -/
def columns (line : List Char) : Nat :=
  ((Columns.steps line).foldl Columns.Cursor.take {}).settle.extent

end DicePool.Text
