import DicePool.Number.Fraction
import DicePool.Number.Numeral

/-!
# Form/Spelling — numbers given as strings

A field that wants a number also takes a string that spells one.  A whole number is best spelled plainly,
by a minus sign and digits without zeros in front.  Where the text is not plain it is tidied first: blanks
around it, a plus sign, zeros in front, a fraction of zeros and single underscores are taken away.  A
fractional number is spelled as `Fraction.read?` reads it, or so with single underscores.
-/

namespace DicePool.Spelling

/-- Why a text spells no whole number. -/
inductive Fault where
  /-- It has too many digits. -/
  | tooLong
  /-- It is not spelled like a number. -/
  | malformed
deriving DecidableEq, Repr

/-- Whether the character is a digit other than zero. -/
def isLeadingDigit (c : Char) : Bool :=
  c.isDigit && c != '0'

/-- The whole number that a text spells plainly.  Too many digits are reported as such even if the text
goes on after them. -/
def plain (s : List Char) : Except Fault Int :=
  let (negative, body) := match s with
    | '-' :: r => (true, r)
    | r => (false, r)
  let ds := body.takeWhile Char.isDigit
  if body = ['0'] then .ok 0
  else if !ds.head?.any isLeadingDigit then .error .malformed
  else if Numeral.maxDigits < ds.length then .error .tooLong
  else if ds.length < body.length then .error .malformed
  else .ok (if negative then -(Text.digitsValue ds : Int) else Text.digitsValue ds)

/-- The text from its first digit other than zero on, or from a minus sign that stands there.  What is
passed over must be zeros, the first of all, and underscores.  Where a point or nothing follows them,
the last of them stays. -/
def dropZeros? (s : List Char) : Option (List Char) :=
  let isStart (c : Char) : Bool := isLeadingDigit c || c == '-'
  match s with
  | '0' :: rest =>
    let isFiller (c : Char) : Bool := c == '0' || c == '_'
    let last := ((rest.takeWhile isFiller).getLast?).getD '0'
    match rest.dropWhile isFiller with
    | [] => some [last]
    | c :: tail =>
      if isStart c then some (c :: tail)
      else if c == '.' then some (last :: c :: tail)
      else none
  | c :: rest => if isStart c then some (c :: rest) else none
  | [] => none

/-- The text without a fraction of zeros; another fraction is none. -/
def dropZeroFraction? (s : List Char) : Option (List Char) :=
  match s.dropWhile (· != '.') with
  | [] => some s
  | _ :: zeros =>
    if !zeros.isEmpty && zeros.all (· == '0') then some (s.takeWhile (· != '.')) else none

/-- The text without its underscores, if there are any and each stands alone inside the text. -/
def dropUnderscores? (s : List Char) : Option (List Char) :=
  let parts := s.splitOn '_'
  if parts.length == 1 || parts.any List.isEmpty then none else some parts.flatten

/-- The text without what may surround and fill a whole number. -/
def tidied? (s : List Char) : Option (List Char) := do
  let body := match Text.stripBy Text.isWhiteSpace s with
    | '+' :: r => r
    | r => r
  let number ← dropZeroFraction? (← dropZeros? body)
  return (dropUnderscores? number).getD number

/-- The whole number that a text spells. -/
def whole (s : List Char) : Except Fault Int :=
  match plain s with
  | .error .malformed => match tidied? s with
    | some t => plain t
    | none => .error .malformed
  | r => r

/-- The double that a text spells. -/
def fraction? (s : List Char) : Option Float :=
  Fraction.read? (Text.stripBy Text.isWhiteSpace s) <|> (dropUnderscores? s).bind Fraction.read?

end DicePool.Spelling
