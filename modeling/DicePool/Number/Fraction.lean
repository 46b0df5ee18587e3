import DicePool.Number.Shortest
import DicePool.Text.Blank
import DicePool.Text.Digit

/-!
# Number/Fraction — doubles as text

`Fraction.read?` reads a sign and then digits with a point and an exponent, or the name of what is not
finite.  `readTyped?` is the liberal reading of a typed number: white space around it, digits of any script,
and single underscores between digits.
-/

namespace DicePool.Fraction

/-- A sign in front of a text: whether it is a minus, and the text without it. -/
def splitSign : List Char → Bool × List Char
  | '-' :: rest => (true, rest)
  | '+' :: rest => (false, rest)
  | s => (false, s)

/-- The exponent that a text spells, if it does. -/
def exponent? : List Char → Option Int
  | [] => some 0
  | c :: rest =>
    let (isNegative, ds) := splitSign rest
    if (c == 'e' || c == 'E') && !ds.isEmpty && ds.all Char.isDigit then
      some (if isNegative then -(Text.digitsValue ds : Int) else Text.digitsValue ds)
    else none

/-- The double that digits with a point and an exponent spell. -/
def decimal? (s : List Char) : Option Float :=
  let whole := s.takeWhile Char.isDigit
  let rest := s.dropWhile Char.isDigit
  let (fraction, rest) := match rest with
    | '.' :: r => (r.takeWhile Char.isDigit, r.dropWhile Char.isDigit)
    | r => ([], r)
  if whole.isEmpty && fraction.isEmpty then none
  else (exponent? rest).map fun e =>
    Number.ofDecimal (Text.digitsValue (whole ++ fraction)) (e - fraction.length)

/-- The double that a text without a sign spells. -/
def unsigned? (s : List Char) : Option Float :=
  let word := String.ofList (s.map Char.toLower)
  if word == "inf" || word == "infinity" then some (1.0 / 0.0)
  else if word == "nan" then some (0.0 / 0.0)
  else decimal? s

/-- The double that a text spells. -/
def read? (s : List Char) : Option Float :=
  let (isNegative, rest) := splitSign s
  (unsigned? rest).map fun x => if isNegative then -x else x

/-- The digit that a character stands for, in ASCII; other characters stay. -/
def plainDigit (c : Char) : Char :=
  match Text.digitValue? c with
  | some n => Char.ofNat (48 + n)
  | none => c

/-- The text without underscores, if each stands between two digits. -/
def dropUnderscores? (before : Bool) : List Char → Option (List Char)
  | [] => some []
  | '_' :: c :: rest =>
    if before && c.isDigit then (dropUnderscores? true rest).map (c :: ·) else none
  | ['_'] => none
  | c :: rest => (dropUnderscores? c.isDigit rest).map (c :: ·)

/-- The double that a typed text spells. -/
def readTyped? (s : List Char) : Option Float :=
  (dropUnderscores? false ((Text.stripBy Text.isWhiteSpace s).map plainDigit)).bind read?

end DicePool.Fraction
