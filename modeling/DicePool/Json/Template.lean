import DicePool.Json.Order
import DicePool.Number.Places

/-!
# Json/Template — texts with gaps

A template is a text in which a percent sign begins a gap, and two of them stand for one.  A gap may
name a field in parentheses, and says after flags, a width and a precision how a value is written there:
as a text, as a whole number, with a fraction or as a character.  One value fills all gaps without a
name, and there may be only one of them; a gap with a name takes that field of the value.
-/

namespace DicePool.Json

/-- Why a template is not filled. -/
inductive TemplateError where
  /-- There are more gaps than values. -/
  | tooFewValues
  /-- There is no gap for the value. -/
  | unusedValue
  /-- A name has no end. -/
  | openName
  /-- A gap has no end. -/
  | openGap
  /-- A gap has a name and the value no fields. -/
  | noFields
  /-- The value has no field of that name. -/
  | missing (name : String)
  /-- The value is a list, which has no names. -/
  | listIndex
  /-- A value of this kind has no length. -/
  | noLength (kind : String)
  /-- The gap asks for something unknown. -/
  | conversion (c : Char) (position : Nat)
  /-- A value of this kind is no number. -/
  | notANumber (c : Char) (kind : String)
  /-- A value of this kind is no whole number. -/
  | notWhole (c : Char) (kind : String)
  /-- A value of this kind has no fraction. -/
  | notAFraction (kind : String)
  /-- The value is no character. -/
  | notAChar
  /-- The number is that of no character. -/
  | charRange
  /-- A width or precision is no whole number. -/
  | notAWidth
  /-- A width is too large. -/
  | hugeWidth
  /-- A precision is too large. -/
  | hugePrecision
  /-- A value is too large for a width. -/
  | farWidth
  /-- A value is too large for a precision. -/
  | farPrecision
  /-- The number is infinite. -/
  | infinite
  /-- The number is undefined. -/
  | undefined
  /-- The number is too large. -/
  | tooLarge
  /-- A number is too long to be written. -/
  | numeral (e : NumeralError)
deriving DecidableEq, Repr

/-- The text of the failure. -/
def TemplateError.message : TemplateError → String
  | .tooFewValues => "not enough arguments for format string"
  | .unusedValue => "not all arguments converted during string formatting"
  | .openName => "incomplete format key"
  | .openGap => "incomplete format"
  | .noFields => "format requires a mapping"
  | .missing name => String.ofList (Text.quoted name.toList)
  | .listIndex => "list indices must be integers or slices, not str"
  | .noLength kind => s!"object of type '{kind}' has no len()"
  | .conversion c position =>
    let shown := if 31 ≤ c.toNat && c.toNat ≤ 126 then c else '?'
    "unsupported format character '" ++ String.singleton shown ++ "' (0x"
      ++ String.ofList (Nat.toDigits 16 c.toNat) ++ s!") at index {position}"
  | .notANumber c kind =>
    "%" ++ String.singleton c ++ s!" format: a real number is required, not {kind}"
  | .notWhole c kind =>
    "%" ++ String.singleton c ++ s!" format: an integer is required, not {kind}"
  | .notAFraction kind => s!"must be real number, not {kind}"
  | .notAChar => "%c requires int or char"
  | .charRange => "%c arg not in range(0x110000)"
  | .notAWidth => "* wants int"
  | .hugeWidth => "width too big"
  | .hugePrecision => "precision too big"
  | .farWidth => "Python int too large to convert to C ssize_t"
  | .farPrecision => "Python int too large to convert to C int"
  | .infinite => "cannot convert float infinity to integer"
  | .undefined => "cannot convert float NaN to integer"
  | .tooLarge => "int too large to convert to float"
  | .numeral e => e.message

namespace Template

/-! ## Gaps -/

/-- How a value is written into a gap. -/
structure Gap where
  /-- At the left, with blanks behind it. -/
  isLeft : Bool := false
  /-- With a plus sign if it is not negative. -/
  hasSign : Bool := false
  /-- With a blank if it is not negative. -/
  hasBlank : Bool := false
  /-- With what tells the base, or with the point. -/
  isFull : Bool := false
  /-- With zeros in front instead of blanks. -/
  hasZeros : Bool := false
  /-- The least width. -/
  width : Option Nat := none
  /-- The precision. -/
  precision : Option Nat := none
  /-- What is written. -/
  conversion : Char := 's'

/-- What values are there for gaps without names. -/
inductive Supply where
  /-- This one. -/
  | one (v : Json)
  /-- None any more. -/
  | used

/-- Reading a template: what follows, and the values. -/
structure Reading where
  /-- The text that follows. -/
  rest : List Char
  /-- The values for gaps without names. -/
  supply : Supply

/-- Takes a value for a gap. -/
def Reading.take (r : Reading) : Except TemplateError (Json × Reading) :=
  match r.supply with
  | .one v => .ok (v, { r with supply := .used })
  | .used => .error .tooFewValues

/-- A name up to the parenthesis that ends it, and what follows it. -/
def nameOf? : (depth : Nat) → List Char → Option (List Char × List Char)
  | _, [] => none
  | depth, c :: rest =>
    if c == ')' && depth == 0 then some ([], rest)
    else
      let depth := if c == ')' then depth - 1 else if c == '(' then depth + 1 else depth
      (nameOf? depth rest).map fun (name, after) => (c :: name, after)

/-- Whether a value may have names in gaps: strings and single values have none. -/
def hasFields : Json → Bool
  | .arr _ => true
  | .obj _ => true
  | _ => false

/-- The field of a value that a gap names. -/
def fieldOf (whole : Json) (name : String) : Except TemplateError Json :=
  match whole with
  | .obj fields => match Named.get? fields name with
    | some v => .ok v
    | none => .error (.missing name)
  | .arr _ => .error .listIndex
  | _ => .error .noFields

/-- Reads the name of a gap, if it has one; the value of that name is then the only one. -/
def readName (whole : Json) (r : Reading) : Except TemplateError Reading :=
  match r.rest with
  | '(' :: rest => do
    if !hasFields whole then throw .noFields
    let some (name, rest) := nameOf? 0 rest | throw .openName
    return { rest, supply := .one (← fieldOf whole (String.ofList name)) }
  | _ => .ok r

/-- Reads the flags of a gap. -/
def readFlags (gap : Gap) : List Char → Gap × List Char
  | '-' :: rest => readFlags { gap with isLeft := true } rest
  | '+' :: rest => readFlags { gap with hasSign := true } rest
  | ' ' :: rest => readFlags { gap with hasBlank := true } rest
  | '#' :: rest => readFlags { gap with isFull := true } rest
  | '0' :: rest => readFlags { gap with hasZeros := true } rest
  | rest => (gap, rest)

/-- A measure of a gap: up to which number it goes, and what is wrong with digits or a value beyond. -/
structure Measure where
  /-- The greatest number. -/
  limit : Nat
  /-- The fault of digits. -/
  huge : TemplateError
  /-- The fault of a value. -/
  far : TemplateError

/-- The width of a gap. -/
def Measure.width : Measure := ⟨Nat.pow 2 63 - 1, .hugeWidth, .farWidth⟩

/-- The precision of a gap. -/
def Measure.precision : Measure := ⟨Nat.pow 2 31 - 1, .hugePrecision, .farPrecision⟩

/-- A value as a width or precision. -/
def widthOf : Json → Except TemplateError Int
  | .int n => .ok n
  | .bool b => .ok (if b then 1 else 0)
  | _ => .error .notAWidth

/-- Reads a number that digits spell, or a star and a value; none if neither is there. -/
def readNumber (m : Measure) (r : Reading) : Except TemplateError (Option Int × Reading) :=
  match r.rest with
  | '*' :: rest => do
    let (v, r) ← { r with rest }.take
    let n ← widthOf v
    if n < -(m.limit : Int) - 1 || (m.limit : Int) < n then throw m.far
    return (some n, r)
  | rest => do
    let ds := rest.takeWhile Char.isDigit
    let n := Text.digitsValue ds
    if m.limit < n then throw m.huge
    return (if ds.isEmpty then none else some (n : Int), { r with rest := rest.drop ds.length })

/-- Reads the width of a gap; a negative one puts the value at the left. -/
def readWidth (gap : Gap) (r : Reading) : Except TemplateError (Gap × Reading) := do
  let (n, r) ← readNumber .width r
  match n with
  | none => return (gap, r)
  | some n => return ({ gap with width := some n.natAbs, isLeft := gap.isLeft || n < 0 }, r)

/-- Reads the precision of a gap; none after the point is zero, and so is a negative one. -/
def readPrecision (gap : Gap) (r : Reading) : Except TemplateError (Gap × Reading) :=
  match r.rest with
  | '.' :: rest => do
    let (n, r) ← readNumber .precision { r with rest }
    return ({ gap with precision := some (n.getD 0).toNat }, r)
  | _ => .ok (gap, r)

/-- The text without a letter that says how long a number is. -/
def dropLength : List Char → List Char
  | c :: rest => if c == 'h' || c == 'l' || c == 'L' then rest else c :: rest
  | [] => []

/-- Reads a gap after its percent sign. -/
def readGap (whole : Json) (r : Reading) : Except TemplateError (Gap × Reading) := do
  let r ← readName whole r
  let (gap, rest) := readFlags {} r.rest
  let (gap, r) ← readWidth gap { r with rest }
  let (gap, r) ← readPrecision gap r
  match dropLength r.rest with
  | c :: rest => return ({ gap with conversion := c }, { r with rest })
  | [] => throw .openGap

/-! ## Values -/

/-- Characters outside ASCII by their code points. -/
def asciiOnly (s : List Char) : List Char :=
  s.flatMap fun c =>
    if c.toNat < 128 then [c]
    else if c.toNat < 0x100 then '\\' :: 'x' :: Text.hexDigits 2 c.toNat
    else if c.toNat < 0x10000 then '\\' :: 'u' :: Text.hexDigits 4 c.toNat
    else '\\' :: 'U' :: Text.hexDigits 8 c.toNat

/-- A value as a text: a string as it is, if that is asked for. -/
def textOf (c : Char) (v : Json) : Except TemplateError (List Char) :=
  if !v.isWritable then .error (.numeral .tooLargeToWrite)
  else match v with
    | .str s => .ok (if c == 's' then s.toList
        else if c == 'a' then asciiOnly v.display.toList else v.display.toList)
    | v => .ok (if c == 'a' then asciiOnly v.display.toList else v.display.toList)

/-- A value as a whole number; a fraction is cut off if the number is written in decimal. -/
def wholeOf (c : Char) (v : Json) : Except TemplateError Int :=
  let isDecimal := c == 'd' || c == 'i' || c == 'u'
  match v with
  | .int n => .ok n
  | .bool b => .ok (if b then 1 else 0)
  | .float x =>
    if !isDecimal then .error (.notWhole c v.kind)
    else if x.isNaN then .error .undefined
    else if x.isInf then .error .infinite
    else .ok (Number.Exact.ofBits x.toBits).truncate
  | v => .error (if isDecimal then .notANumber c v.kind else .notWhole c v.kind)

/-- The base that a whole number is written in, and what tells it. -/
def baseOf (c : Char) : Nat × List Char :=
  if c == 'o' then (8, ['0', 'o'])
  else if c == 'x' then (16, ['0', 'x'])
  else if c == 'X' then (16, ['0', 'X'])
  else (10, [])

/-- A number in a gap: its sign, what tells its base, and its digits. -/
structure Written where
  /-- The sign. -/
  sign : List Char := []
  /-- What tells the base. -/
  mark : List Char := []
  /-- The digits. -/
  digits : List Char

/-- The sign of a number in a gap. -/
def Gap.signOf (gap : Gap) (isNegative : Bool) : List Char :=
  if isNegative then ['-'] else if gap.hasSign then ['+'] else if gap.hasBlank then [' '] else []

/-- A whole number in a gap. -/
def Gap.whole (gap : Gap) (n : Int) : Except TemplateError Written := do
  let (base, mark) := baseOf gap.conversion
  if base == 10 then let _ ← (Numeral.write n).mapError .numeral
  let ds := Nat.toDigits base n.natAbs
  let ds := if gap.conversion == 'X' then ds.map Char.toUpper else ds
  let zeros := List.replicate (gap.precision.getD 0 - ds.length) '0'
  return { sign := gap.signOf (n < 0), mark := if gap.isFull then mark else [], digits := zeros ++ ds }

/-- A value as a fractional number. -/
def fractionOf : Json → Except TemplateError Float
  | .float x => .ok x
  | .bool b => .ok (if b then 1.0 else 0.0)
  | .int n =>
    let x := Number.ofDecimal n.natAbs 0
    if x.isInf then .error .tooLarge else .ok (if n < 0 then -x else x)
  | v => .error (.notAFraction v.kind)

/-- The digits of a fractional number that is not negative. -/
def Gap.fractionDigits (gap : Gap) (x : Float) : List Char :=
  let places := gap.precision.getD 6
  let (num, den) := (Number.Exact.ofBits x.toBits).quotient
  let c := gap.conversion.toLower
  if c == 'e' then Number.exponentialText gap.isFull places num.natAbs den
  else if c == 'f' then Number.fixedText gap.isFull places num.natAbs den
  else Number.generalText gap.isFull places num.natAbs den

/-- A fractional number in a gap. -/
def Gap.fraction (gap : Gap) (x : Float) : Written :=
  let isNegative := !x.isNaN && (Number.Exact.ofBits x.toBits).negative
  let ds := if x.isNaN then "nan".toList
    else if x.isInf then "inf".toList
    else gap.fractionDigits x
  { sign := gap.signOf isNegative,
    digits := if gap.conversion.isUpper then ds.map Char.toUpper else ds }

/-- A value as a character. -/
def charOf : Json → Except TemplateError Char
  | .str s => match s.toList with
    | [c] => .ok c
    | _ => .error .notAChar
  | .int n =>
    if n < 0 || 0x10ffff < n then .error .charRange
    else .ok (Char.ofNat n.toNat)
  | .bool b => .ok (Char.ofNat (if b then 1 else 0))
  | _ => .error .notAChar

/-- A text filled up to the width of a gap. -/
def Gap.fillUp (gap : Gap) (s : List Char) : List Char :=
  let blanks := List.replicate (gap.width.getD 0 - s.length) ' '
  if gap.isLeft then s ++ blanks else blanks ++ s

/-- A number filled up to the width of a gap. -/
def Gap.fillNumber (gap : Gap) (w : Written) : List Char :=
  if gap.hasZeros && !gap.isLeft then
    let taken := w.sign.length + w.mark.length + w.digits.length
    w.sign ++ w.mark ++ List.replicate (gap.width.getD 0 - taken) '0' ++ w.digits
  else gap.fillUp (w.sign ++ w.mark ++ w.digits)

/-- A value in a gap whose conversion ends before `position`. -/
def Gap.write (gap : Gap) (position : Nat) (v : Json) : Except TemplateError (List Char) :=
  let c := gap.conversion
  if ['s', 'r', 'a'].contains c then do
    let s ← textOf c v
    return gap.fillUp (match gap.precision with
      | some n => s.take n
      | none => s)
  else if ['d', 'i', 'u', 'o', 'x', 'X'].contains c then do
    return gap.fillNumber (← gap.whole (← wholeOf c v))
  else if ['e', 'E', 'f', 'F', 'g', 'G'].contains c then do
    return gap.fillNumber (gap.fraction (← fractionOf v))
  else if c == 'c' then do return gap.fillUp [← charOf v]
  else .error (.conversion c (position - 1))

/-! ## Templates -/

/-- Fills the gaps of what follows in a template of `length` characters; `fuel` bounds what follows. -/
def fillFrom (whole : Json) (length : Nat) : Nat → Reading → Except TemplateError (List Char × Supply)
  | 0, r => .ok ([], r.supply)
  | fuel + 1, r => match r.rest with
    | [] => .ok ([], r.supply)
    | '%' :: '%' :: rest => do
      let (text, supply) ← fillFrom whole length fuel { r with rest }
      return ('%' :: text, supply)
    | '%' :: rest => do
      let (gap, r) ← readGap whole { r with rest }
      let (v, r) ← r.take
      let written ← gap.write (length - r.rest.length) v
      let (text, supply) ← fillFrom whole length fuel r
      return (written ++ text, supply)
    | c :: rest => do
      let (text, supply) ← fillFrom whole length fuel { r with rest }
      return (c :: text, supply)

/-- A template filled with a value.  A value without fields must be used. -/
def fill (template : String) (v : Json) : Except TemplateError String := do
  let s := template.toList
  let (text, supply) ← fillFrom v s.length (s.length + 1) ⟨s, .one v⟩
  match supply with
  | .one _ => if !hasFields v then throw .unusedValue
  | .used => pure ()
  return String.ofList text

end Template

end DicePool.Json
