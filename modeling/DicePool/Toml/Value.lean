import DicePool.Number.Numeral
import DicePool.Text.Hex
import DicePool.Toml.Basic

/-!
# Toml/Value — keys and values of a configuration text

Reads one key or one value from the front of a text and returns the rest.  Strings come in four forms,
basic and literal, on one line or several; numbers are whole, in four bases, or fractional; moments are
checked and brought to a normal form; arrays and inline tables hold further values.

The nesting is bounded by the length of the text, which is the fuel of `value`.
-/

namespace DicePool.Toml

/-- Why a text is no configuration. -/
inductive Fault where
  /-- It breaks the notation. -/
  | malformed
  /-- A whole number is too long to be read. -/
  | numeral (e : NumeralError)
deriving DecidableEq, Repr

/-- The refusal. -/
def malformed {α : Type} : Except Fault α := .error .malformed

/-- Whether the character is blank inside a line. -/
def isSpace (c : Char) : Bool :=
  c == ' ' || c == '\t'

/-- The text after the blanks in front. -/
def skipSpace (s : List Char) : List Char :=
  s.dropWhile isSpace

/-- Whether the character may not stand in a text as it is. -/
def isControl (c : Char) : Bool :=
  (c.toNat < 0x20 && c != '\t') || c.toNat == 0x7f

/-- The text after a comment, if there is one in front. -/
def skipComment : List Char → Except Fault (List Char)
  | '#' :: s =>
    if (s.takeWhile (· != '\n')).any isControl then malformed else .ok (s.dropWhile (· != '\n'))
  | s => .ok s

/-- The text after all blanks, line ends and comments. -/
def skipLines : Nat → List Char → Except Fault (List Char)
  | 0, s => .ok s
  | fuel + 1, s => do
    let t ← skipComment (s.dropWhile fun c => isSpace c || c == '\n')
    if t.length == s.length then return t else skipLines fuel t

/-! ## Strings -/

/-- The character that a short escape stands for. -/
def shortEscape? (c : Char) : Option Char :=
  if c == 'b' then some '\x08'
  else if c == 't' then some '\t'
  else if c == 'n' then some '\n'
  else if c == 'f' then some '\x0c'
  else if c == 'r' then some '\r'
  else if c == '"' || c == '\\' then some c
  else none

/-- A character given by its code point in so many hexadecimal digits. -/
def codePoint (width : Nat) (s : List Char) : Except Fault (List Char × List Char) :=
  match (s.take width).mapM Text.hexValue? with
  | none => malformed
  | some ds =>
    let n := ds.foldl (fun n d => 16 * n + d) 0
    if ds.length < width || 0x10ffff < n || (0xd800 ≤ n && n ≤ 0xdfff) then malformed
    else .ok ([Char.ofNat n], s.drop width)

/-- What follows a backslash. -/
def escape (multiline : Bool) (s : List Char) : Except Fault (List Char × List Char) :=
  match s with
  | 'u' :: rest => codePoint 4 rest
  | 'U' :: rest => codePoint 8 rest
  | c :: rest =>
    if multiline && (isSpace c || c == '\n') then
      match s.dropWhile isSpace with
      | [] => .ok ([], [])
      | '\n' :: rest => .ok ([], rest.dropWhile fun c => isSpace c || c == '\n')
      | _ => malformed
    else match shortEscape? c with
      | some e => .ok ([e], rest)
      | none => malformed
  | [] => malformed

/-- The rest of a basic string, up to its closing quotes. -/
def basic (multiline : Bool) : Nat → List Char → List Char → Except Fault (List Char × List Char)
  | 0, _, _ => malformed
  | fuel + 1, done, s =>
    match s with
    | [] => malformed
    | '"' :: rest =>
      if !multiline then .ok (done.reverse, rest)
      else match rest with
        | '"' :: '"' :: rest => .ok (done.reverse, rest)
        | _ => basic multiline fuel ('"' :: done) rest
    | '\\' :: rest => do
      let (cs, rest) ← escape multiline rest
      basic multiline fuel (cs.reverse ++ done) rest
    | c :: rest =>
      if isControl c && !(multiline && c == '\n') then malformed
      else basic multiline fuel (c :: done) rest

/-- The rest of a literal string of one line. -/
def literal (s : List Char) : Except Fault (List Char × List Char) :=
  match s.dropWhile (· != '\'') with
  | [] => malformed
  | _ :: rest =>
    let body := s.takeWhile (· != '\'')
    if body.any isControl then malformed else .ok (body, rest)

/-- The rest of a literal string of several lines. -/
def literalLines : List Char → List Char → Except Fault (List Char × List Char)
  | done, '\'' :: '\'' :: '\'' :: rest => .ok (done.reverse, rest)
  | done, c :: rest =>
    if isControl c && c != '\n' then malformed else literalLines (c :: done) rest
  | _, [] => malformed

/-- Up to two quotes that stand directly after three closing ones belong to the string. -/
def extraQuotes (quote : Char) (r : List Char × List Char) : List Char × List Char :=
  let extra := (r.2.take 2).takeWhile (· == quote)
  (r.1 ++ extra, r.2.drop extra.length)

/-- The text without a line end in front. -/
def dropLineEnd : List Char → List Char
  | '\n' :: s => s
  | s => s

/-- A string, if one stands in front. -/
def string? (s : List Char) : Option (Except Fault (List Char × List Char)) :=
  match s with
  | '"' :: '"' :: '"' :: rest =>
    let body := dropLineEnd rest
    some ((basic true (body.length + 1) [] body).map (extraQuotes '"'))
  | '"' :: rest => some (basic false (rest.length + 1) [] rest)
  | '\'' :: '\'' :: '\'' :: rest =>
    some ((literalLines [] (dropLineEnd rest)).map (extraQuotes '\''))
  | '\'' :: rest => some (literal rest)
  | _ => none

/-! ## Keys -/

/-- Whether the character may stand in a key without quotes. -/
def isBareKeyChar (c : Char) : Bool :=
  c.isAlphanum || c == '-' || c == '_'

/-- One part of a key. -/
def keyPart (s : List Char) : Except Fault (String × List Char) := do
  let (part, rest) ← match s with
    | '"' :: rest => basic false (rest.length + 1) [] rest
    | '\'' :: rest => literal rest
    | _ =>
      let bare := s.takeWhile isBareKeyChar
      if bare.isEmpty then malformed else .ok (bare, s.dropWhile isBareKeyChar)
  return (String.ofList part, skipSpace rest)

/-- The parts of a dotted key. -/
def key : Nat → List Char → Except Fault (List String × List Char)
  | 0, _ => malformed
  | fuel + 1, s => do
    let (part, rest) ← keyPart s
    match rest with
    | '.' :: rest => do
      let (parts, rest) ← key fuel (skipSpace rest)
      return (part :: parts, rest)
    | _ => return ([part], rest)

/-! ## Numbers, dates and times -/

/-- Digits of a class with single underscores between them, from the front of a text; the text is given
back as it is if no digit stands there. -/
def digits (isDigit : Char → Bool) : List Char → List Char × List Char
  | '_' :: c :: rest =>
    -- an underscore belongs to the digits only between two of them
    if isDigit c then
      let (ds, rest') := digits isDigit rest
      (c :: ds, rest')
    else ([], '_' :: c :: rest)
  | c :: rest =>
    if isDigit c then
      let (ds, rest') := digits isDigit rest
      (c :: ds, rest')
    else ([], c :: rest)
  | [] => ([], [])

/-- Digits that do not begin with an underscore. -/
def digits? (isDigit : Char → Bool) (s : List Char) : Option (List Char × List Char) :=
  match s with
  | c :: _ => if isDigit c then some (digits isDigit s) else none
  | [] => none

/-- A whole number in another base, after its mark. -/
def inBase? (base : Nat) (s : List Char) : Option (Value × List Char) := do
  let isDigit (c : Char) : Bool := (Text.hexValue? c).any (· < base)
  let (ds, rest) ← digits? isDigit s
  let n := ds.foldl (fun n c => base * n + (Text.hexValue? c).getD 0) 0
  return (.int n, rest)

/-- The integer part of a decimal number: zero, or digits that do not begin with zero. -/
def integerPart? : List Char → Option (List Char × List Char)
  | '0' :: rest => some (['0'], rest)
  | s => digits? Char.isDigit s

/-- The digits after a decimal point; none if no point with a digit stands in front. -/
def fractionPart (s : List Char) : List Char × List Char :=
  match s with
  | '.' :: rest => (digits? Char.isDigit rest).getD ([], s)
  | _ => ([], s)

/-- The exponent, if one stands in front. -/
def exponentPart? (s : List Char) : Option (Int × List Char) := do
  let e :: rest := s | none
  if e != 'e' && e != 'E' then none
  let (negative, rest) := match rest with
    | '-' :: r => (true, r)
    | '+' :: r => (false, r)
    | r => (false, r)
  let (ds, rest) ← digits? Char.isDigit rest
  let n : Int := Text.digitsValue ds
  return (if negative then -n else n, rest)

/-- A decimal number with an optional sign. -/
def decimal? (s : List Char) : Option (Except Fault (Value × List Char)) := do
  let (negative, body) := match s with
    | '-' :: r => (true, r)
    | '+' :: r => (false, r)
    | r => (false, r)
  let (whole, rest) ← integerPart? body
  let (fraction, rest') := fractionPart rest
  match fraction, exponentPart? rest' with
  | [], none =>
    match Numeral.ofDigits whole with
    | .ok n => return .ok (.int (if negative then -(n : Int) else n), rest)
    | .error e => return .error (.numeral e)
  | _, exponent =>
    let (e, rest'') := exponent.getD (0, rest')
    let x := Number.ofDecimal (Text.digitsValue (whole ++ fraction)) (e - fraction.length)
    return .ok (.float (if negative then -x else x), rest'')

/-- A number in any base. -/
def number? (s : List Char) : Option (Except Fault (Value × List Char)) :=
  let based := match s with
    | '0' :: 'x' :: rest => inBase? 16 rest
    | '0' :: 'b' :: rest => inBase? 2 rest
    | '0' :: 'o' :: rest => inBase? 8 rest
    | _ => none
  match based with
  | some r => some (.ok r)
  | none => decimal? s

/-- A fractional number that is no number of digits. -/
def special? (s : List Char) : Option (Except Fault (Value × List Char)) :=
  let (negative, body) := match s with
    | '-' :: r => (true, r)
    | '+' :: r => (false, r)
    | r => (false, r)
  let word := String.ofList (body.take 3)
  let x? : Option Float :=
    if word == "inf" then some (1.0 / 0.0) else if word == "nan" then some (0.0 / 0.0) else none
  x?.map fun x => .ok (.float (if negative then -x else x), body.drop 3)

/-- So many digits that spell a number in a range. -/
def bounded? (width low high : Nat) (s : List Char) : Option (Nat × List Char) :=
  let ds := s.take width
  let n := Text.digitsValue ds
  if ds.length == width && ds.all Char.isDigit && low ≤ n && n ≤ high then some (n, s.drop width)
  else none

/-- The text after a character, if it stands in front. -/
def after? (c : Char) : List Char → Option (List Char)
  | d :: rest => if d == c then some rest else none
  | [] => none

/-- The fraction of a second that digits spell: cut to six places, and nothing if these are zeros. -/
def microseconds (ds : List Char) : List Char :=
  let places := ds.take 6
  if places.all (· == '0') then []
  else '.' :: places ++ List.replicate (6 - places.length) '0'

/-- A time of day in its normal form, and the text after it. -/
def time? (s : List Char) : Option (List Char × List Char) := do
  let (_, t) ← bounded? 2 0 23 s
  let (_, t) ← bounded? 2 0 59 (← after? ':' t)
  let (_, t) ← bounded? 2 0 59 (← after? ':' t)
  match t with
  | '.' :: rest =>
    let ds := rest.takeWhile Char.isDigit
    return if ds.isEmpty then (s.take 8, t)
      else (s.take 8 ++ microseconds ds, rest.drop ds.length)
  | _ => return (s.take 8, t)

/-- The offset of a time in its normal form, which is empty if there is none, and the text after it. -/
def offset (s : List Char) : List Char × List Char :=
  let zero := "+00:00".toList
  match s with
  | 'Z' :: rest => (zero, rest)
  | 'z' :: rest => (zero, rest)
  | c :: rest =>
    if c == '+' || c == '-' then
      let signed? : Option (List Char × List Char) := do
        let (hours, t) ← bounded? 2 0 23 rest
        let (minutes, t) ← bounded? 2 0 59 (← after? ':' t)
        return (if hours == 0 && minutes == 0 then zero else s.take 6, t)
      signed?.getD ([], s)
    else ([], s)
  | [] => ([], s)

/-- How many days a month has. -/
def daysOfMonth (year month : Nat) : Nat :=
  if month == 2 then
    if year % 4 == 0 && (year % 100 != 0 || year % 400 == 0) then 29 else 28
  else if [4, 6, 9, 11].contains month then 30 else 31

/-- A date, with or without a time, or a time alone. -/
def moment? (s : List Char) : Option (Except Fault (Value × List Char)) :=
  let date? : Option (Nat × Nat × Nat × List Char) := do
    let (year, t) ← bounded? 4 0 9999 s
    let (month, t) ← bounded? 2 1 12 (← after? '-' t)
    let (day, t) ← bounded? 2 1 31 (← after? '-' t)
    return (year, month, day, t)
  let moment (clock : Clock) (text rest : List Char) : Except Fault (Value × List Char) :=
    .ok (.moment clock (String.ofList text), rest)
  match date? with
  | some (year, month, day, t) =>
    let day? : Option (List Char × List Char) := match t with
      | c :: u => if c == 'T' || c == 't' || c == ' ' then time? u else none
      | [] => none
    if year == 0 || daysOfMonth year month < day then some malformed
    else match day? with
      | some (time, u) =>
        let (shift, rest) := offset u
        some (moment .both (s.take 10 ++ ' ' :: time ++ shift) rest)
      | none => some (moment .date (s.take 10) t)
  | none => (time? s).map fun (time, rest) => moment .time time rest

/-! ## Values -/

/-- Puts a value under a dotted key of an inline table; nothing may stand there yet, and the tables on
the way must be open. -/
def putInline (fields : Named Value) (frozen : List (List String)) (way : List String) (v : Value) :
    List String → Except Fault (Named Value)
  | [] => malformed
  | [name] =>
    if (Named.get? fields name).isSome then malformed else .ok (fields ++ [(name, v)])
  | name :: path =>
    let way := way ++ [name]
    if frozen.contains way then malformed
    else match Named.get? fields name with
      | none => (putInline [] frozen way v path).map fun inner => fields ++ [(name, .obj inner)]
      | some (.obj inner) =>
        (putInline inner frozen way v path).map fun inner => Named.put fields name (.obj inner)
      | some _ => malformed

mutual

/-- The value in front of a text. -/
def value : Nat → List Char → Except Fault (Value × List Char)
  | 0, _ => malformed
  | fuel + 1, s =>
    match string? s with
    | some r => r.map fun (cs, rest) => (.str (String.ofList cs), rest)
    | none => match s with
      | 't' :: 'r' :: 'u' :: 'e' :: rest => .ok (.bool true, rest)
      | 'f' :: 'a' :: 'l' :: 's' :: 'e' :: rest => .ok (.bool false, rest)
      | '[' :: rest => items fuel [] rest
      | '\x7b' :: rest =>
        match skipSpace rest with
        | '\x7d' :: rest => .ok (.obj [], rest)
        | rest => inlineFields fuel [] [] rest
      | _ => match moment? s with
        | some r => r
        | none => match number? s with
          | some r => r
          | none => (special? s).getD malformed

/-- The items of an array up to its end. -/
def items : Nat → List Value → List Char → Except Fault (Value × List Char)
  | 0, _, _ => malformed
  | fuel + 1, done, s => do
    match ← skipLines (s.length + 1) s with
    | ']' :: rest => return (.arr done.reverse, rest)
    | s => do
      let (v, rest) ← value fuel s
      match ← skipLines (rest.length + 1) rest with
      | ']' :: rest => return (.arr (v :: done).reverse, rest)
      | ',' :: rest => items fuel (v :: done) rest
      | _ => malformed

/-- The fields of an inline table up to its end. -/
def inlineFields : Nat → Named Value → List (List String) → List Char → Except Fault (Value × List Char)
  | 0, _, _, _ => malformed
  | fuel + 1, done, frozen, s => do
    let (path, rest) ← key (s.length + 1) s
    let rest ← match rest with
      | '=' :: rest => pure (skipSpace rest)
      | _ => malformed
    let (v, rest) ← value fuel rest
    let done ← putInline done frozen [] v path
    match skipSpace rest with
    | '\x7d' :: rest => return (.obj done, rest)
    | ',' :: rest =>
      inlineFields fuel done (if v.isContainer then path :: frozen else frozen) (skipSpace rest)
    | _ => malformed

end

end DicePool.Toml
