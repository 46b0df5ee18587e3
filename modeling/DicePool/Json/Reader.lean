import DicePool.Json.Basic
import DicePool.Number.Numeral

/-!
# Json/Reader — reading JSON text

The reader is a machine that is fed one character at a time.  It keeps the containers that are
still open, what may come next, and the token that it is inside.  A text is JSON when every
character is accepted and the machine ends with one finished value.  Since the machine is folded
over the text, reading always ends.  A `Fault` says why a text is no JSON, and where.

Containers may be nested to a given depth: one that lies inside more than that many others has to
be empty, or may not be opened at all.  A name that comes twice in an object takes its last value.
-/

namespace DicePool.Json.Reader

/-! ## Faults -/

/-- Why a text is no JSON. -/
inductive Reason where
  /-- A value is missing. -/
  | value
  /-- A name is missing. -/
  | name
  /-- The colon after a name is missing. -/
  | colon
  /-- A comma is missing. -/
  | comma
  /-- A string has no end. -/
  | openString
  /-- A string holds a control character. -/
  | control
  /-- A backslash is followed by a character that has no meaning there. -/
  | escape
  /-- A unit is not spelled by four digits, or is half of a pair without the other half. -/
  | unit
  /-- Something follows the value. -/
  | extra
  /-- A container lies too deep. -/
  | depth
  /-- Too many containers are open for another list, or another object. -/
  | nesting (isList : Bool)
  /-- A number has so many digits. -/
  | digits (count : Nat)
deriving DecidableEq, Repr

/-- The words for a reason. -/
def Reason.message : Reason → String
  | .value => "Expecting value"
  | .name => "Expecting property name enclosed in double quotes"
  | .colon => "Expecting ':' delimiter"
  | .comma => "Expecting ',' delimiter"
  | .openString => "Unterminated string starting at"
  | .control => "Invalid control character at"
  | .escape => "Invalid \\escape"
  | .unit => "Invalid \\uXXXX escape"
  | .extra => "Extra data"
  | .depth => "Nested too deep"
  | .nesting isList => "maximum recursion depth exceeded while decoding a JSON "
      ++ (if isList then "array" else "object") ++ " from a unicode string"
  | .digits count => (NumeralError.tooManyDigits count).message

/-- Why a text is no JSON, and where. -/
structure Fault where
  /-- Why. -/
  reason : Reason
  /-- How many characters stand before the place. -/
  position : Nat
deriving DecidableEq, Repr

/-- Whether a limit is passed, and the text might be JSON otherwise. -/
def Reason.isLimit : Reason → Bool
  | .nesting _ => true
  | .digits _ => true
  | _ => false

/-- The text of the failure, which tells the place by its line and column too, unless a limit is passed. -/
def Fault.message (text : List Char) (f : Fault) : String :=
  if f.reason.isLimit then f.reason.message else
  let before := text.take f.position
  let line := before.count '\n' + 1
  let column := (before.reverse.takeWhile (· != '\n')).length + 1
  s!"{f.reason.message}: line {line} column {column} (char {f.position})"

/-! ## The machine -/

/-- A container that is still open, with what it holds so far. -/
inductive Container where
  /-- A list; the items so far stand in reverse. -/
  | items (done : List Json)
  /-- An object, with the name whose value comes next. -/
  | fields (done : Named Json) (name : String)

/-- What may come next between tokens. -/
inductive Expected where
  /-- A value. -/
  | value
  /-- The first item of a list, or its end. -/
  | firstItem
  /-- The first name of an object, or its end. -/
  | firstName
  /-- A name. -/
  | name
  /-- The colon after a name. -/
  | colon
  /-- A comma, or the end of the innermost container. -/
  | next
  /-- Nothing more: the value is finished. -/
  | finished (v : Json)

/-- What is wrong where something else comes. -/
def Expected.reason : Expected → Reason
  | .value => .value
  | .firstItem => .value
  | .firstName => .name
  | .name => .name
  | .colon => .colon
  | .next => .comma
  | .finished _ => .extra

/-- How far into an escape the reader of a string is. -/
inductive Escape where
  /-- In no escape. -/
  | none
  /-- After a backslash. -/
  | start
  /-- Inside the four digits of a unit: the digits left and the number so far. -/
  | unit (left : Nat) (code : Nat)
  /-- Right after the digits of a unit, where a text must not end. -/
  | ended

/-- The token that the reader is inside. -/
inductive Token where
  /-- Between tokens. -/
  | none
  /-- A string: a name or a value, where it begins, its characters in reverse, the first half of a
  surrogate pair if one waits for its second half, and the escape it is in. -/
  | string (isName : Bool) (begin : Nat) (done : List Char) (high : Option Nat) (escape : Escape)
  /-- A number or a word such as `true`: where it begins, and its characters in reverse. -/
  | bare (begin : Nat) (done : List Char)

/-- Where the reader stands. -/
structure State where
  /-- The open containers, innermost first. -/
  containers : List Container
  /-- How many containers are open. -/
  depth : Nat
  /-- What may come next. -/
  expected : Expected
  /-- The token that the reader is inside. -/
  token : Token
  /-- How many characters were read. -/
  position : Nat

/-- The reader before the first character. -/
def State.start : State := ⟨[], 0, .value, .none, 0⟩

/-- Whether the character is blank in JSON. -/
def isBlank (c : Char) : Bool :=
  c == ' ' || c == '\t' || c == '\n' || c == '\r'

/-- Whether the character may belong to a number or a word. -/
def isBare (c : Char) : Bool :=
  c.isAlphanum || c == '+' || c == '-' || c == '.'

/-- Splits off the leading ASCII digits. -/
def spanDigits (s : List Char) : List Char × List Char :=
  (s.takeWhile Char.isDigit, s.dropWhile Char.isDigit)

/-- The number that ASCII digits spell. -/
def digitsNat (ds : List Char) : Nat :=
  ds.foldl (fun n c => 10 * n + (c.toNat - 48)) 0

/-- The exponent part of a number, if the rest of the number is one or is empty. -/
def exponent? : List Char → Option Int
  | [] => some 0
  | e :: rest =>
    if e == 'e' || e == 'E' then
      let (negative, ds) := match rest with
        | '-' :: r => (true, r)
        | '+' :: r => (false, r)
        | r => (false, r)
      if ds.isEmpty || !ds.all Char.isDigit then none
      else if negative then some (-(digitsNat ds : Int)) else some (digitsNat ds)
    else none

/-- The limits of a text. -/
structure Limits where
  /-- How many containers that are not empty may lie inside each other. -/
  depth : Option Nat := Option.none
  /-- How many containers may be open. -/
  nesting : Option Nat := Option.none
  /-- How many digits a whole number may have. -/
  digits : Option Nat := Option.none
  /-- Whether no more digits may stand before a point or an exponent either. -/
  isStrict : Bool := false
  /-- Whether the names of what is not finite count as numbers. -/
  undefined : Bool := true
  /-- Whether half of a surrogate pair may stand alone; a replacement character is read for it. -/
  halves : Bool := false

/-- Nothing is limited. -/
def Limits.none : Limits := {}

/-- The unsigned number that the characters spell. -/
def unsigned? (limits : Limits) (s : List Char) : Option Json :=
  let (whole, rest) := spanDigits s
  if limits.undefined && s == "Infinity".toList then some (.float (1.0 / 0.0))
  else if whole.isEmpty || (whole.head? == some '0' && 1 < whole.length) then none
  else match rest with
    | [] => some (.int (digitsNat whole))
    | '.' :: rest' =>
      let (fraction, tail) := spanDigits rest'
      if fraction.isEmpty then none
      else (exponent? tail).map fun e =>
        .float (Number.ofDecimal (digitsNat (whole ++ fraction)) (e - fraction.length))
    | tail => (exponent? tail).map fun e => .float (Number.ofDecimal (digitsNat whole) e)

/-- The negative of a number. -/
def negated : Json → Json
  | .int n => .int (-n)
  | .float x => .float (-x)
  | v => v

/-- The value of a number or word. -/
def bare? (limits : Limits) (s : List Char) : Option Json :=
  match String.ofList s with
  | "null" => some .null
  | "true" => some (.bool true)
  | "false" => some (.bool false)
  | "NaN" => if limits.undefined then some (.float (0.0 / 0.0)) else none
  | _ => match s with
    | '-' :: rest => (unsigned? limits rest).map negated
    | _ => unsigned? limits s

/-- The digits of a number before a point or an exponent, if there are too many. -/
def excess? (limits : Limits) (s : List Char) : Option Nat :=
  let (whole, rest) := spanDigits (match s with
    | '-' :: rest => rest
    | rest => rest)
  if limits.digits.any (· < whole.length) && (rest.isEmpty || limits.isStrict) then some whole.length
  else none

/-- Takes in a finished value. -/
def State.accept (st : State) (v : Json) : State :=
  match st.containers with
  | [] => { st with expected := .finished v, token := .none }
  | .items done :: rest =>
    { st with containers := .items (v :: done) :: rest, expected := .next, token := .none }
  | .fields done name :: rest =>
    { st with containers := .fields (done.put name v) "" :: rest, expected := .next, token := .none }

/-- Takes in a finished name. -/
def State.acceptName (st : State) (name : String) : State :=
  match st.containers with
  | .fields done _ :: rest =>
    { st with containers := .fields done name :: rest, expected := .colon, token := .none }
  | _ => st

/-- Opens a container. -/
def State.enter (st : State) (c : Container) (expected : Expected) : State :=
  { st with containers := c :: st.containers, depth := st.depth + 1, expected, token := .none }

/-- Refuses the next character, or the end of the text. -/
def State.refuse {α : Type} (st : State) : Except Fault α :=
  .error ⟨st.expected.reason, st.position⟩

/-- Closes the innermost container, if the bracket fits it. -/
def State.leave (st : State) (bracket : Char) : Except Fault State :=
  match st.containers, bracket with
  | .items done :: rest, ']' =>
    .ok (({ st with containers := rest, depth := st.depth - 1 } : State).accept (.arr done.reverse))
  | .fields done _ :: rest, '\x7d' =>
    .ok (({ st with containers := rest, depth := st.depth - 1 } : State).accept (.obj done))
  | _, _ => st.refuse

/-- Opens a list or an object, unless too many containers are open. -/
def State.open (limits : Limits) (st : State) (isList : Bool) : Except Fault State :=
  if limits.nesting.any (· ≤ st.depth) then .error ⟨.nesting isList, st.position⟩
  else .ok (if isList then st.enter (.items []) .firstItem else st.enter (.fields [] "") .firstName)

/-- Begins a value. -/
def State.beginValue (limits : Limits) (st : State) (c : Char) : Except Fault State :=
  if c == '"' then .ok { st with token := .string false st.position [] Option.none .none }
  else if c == '[' then st.open limits true
  else if c == '\x7b' then st.open limits false
  else if isBare c then .ok { st with token := .bare st.position [c] }
  else st.refuse

/-- Begins a name. -/
def State.beginName (st : State) (c : Char) : Except Fault State :=
  if c == '"' then .ok { st with token := .string true st.position [] Option.none .none }
  else st.refuse

/-- Goes on, if the innermost container may hold anything. -/
def State.ifFits (limits : Limits) (st : State) (r : Except Fault State) : Except Fault State :=
  if limits.depth.all (st.depth ≤ ·) then r else .error ⟨.depth, st.position⟩

/-- One character between tokens. -/
def State.between (limits : Limits) (st : State) (c : Char) : Except Fault State :=
  if isBlank c then .ok st
  else match st.expected with
    | .value => st.beginValue limits c
    | .firstItem => if c == ']' then st.leave c else st.ifFits limits (st.beginValue limits c)
    | .firstName => if c == '\x7d' then st.leave c else st.ifFits limits (st.beginName c)
    | .name => st.beginName c
    | .colon => if c == ':' then .ok { st with expected := .value } else st.refuse
    | .next =>
      if c == ',' then match st.containers with
        | .items _ :: _ => .ok { st with expected := .value }
        | .fields _ _ :: _ => .ok { st with expected := .name }
        | [] => st.refuse
      else st.leave c
    | .finished _ => st.refuse

/-- The character that a short escape stands for. -/
def shortEscape? (c : Char) : Option Char :=
  if c == '"' || c == '\\' || c == '/' then some c
  else if c == 'n' then some '\n'
  else if c == 't' then some '\t'
  else if c == 'r' then some '\r'
  else if c == 'b' then some '\x08'
  else if c == 'f' then some '\x0c'
  else none

/-- A unit of sixteen bits that follows no half of a pair joins the characters of a string; half of a pair
waits for the other half. -/
def freshUnit? (limits : Limits) (done : List Char) (code : Nat) : Option (List Char × Option Nat) :=
  if 0xd800 ≤ code && code < 0xdc00 then some (done, some code)
  else if 0xdc00 ≤ code && code < 0xe000 then
    if limits.halves then some ('\ufffd' :: done, Option.none) else none
  else some (Char.ofNat code :: done, Option.none)

/-- A finished unit of sixteen bits joins the characters of a string, or completes the half of a pair that
waits. -/
def unitDone? (limits : Limits) (done : List Char) (high : Option Nat) (code : Nat) :
    Option (List Char × Option Nat) :=
  match high with
  | some h =>
    if 0xdc00 ≤ code && code < 0xe000 then
      some (Char.ofNat (0x10000 + (h - 0xd800) * 0x400 + (code - 0xdc00)) :: done, Option.none)
    else if limits.halves then freshUnit? limits ('\ufffd' :: done) code
    else none
  | none => freshUnit? limits done code

/-- Where the `u` of a unit stands, given how many of its digits are left at a position. -/
def unitStart (position left : Nat) : Nat :=
  position + left - 5

/-- The characters of a string where half of a pair stands alone, if that may be. -/
def settled (limits : Limits) (done : List Char) (high : Option Nat) : List Char × Option Nat :=
  match high with
  | some h => if limits.halves then ('\ufffd' :: done, Option.none) else (done, some h)
  | none => (done, Option.none)

/-- One character inside a string, which is in no escape. -/
def State.inPlain (limits : Limits) (st : State) (isName : Bool) (begin : Nat) (done : List Char)
    (high : Option Nat) (c : Char) : Except Fault State :=
  if c == '\\' then .ok { st with token := .string isName begin done high .start }
  else if c.toNat < 0x20 then .error ⟨.control, st.position⟩
  else
    let (done, high) := settled limits done high
    if high.isSome then .error ⟨.unit, unitStart st.position 0⟩
    else if c == '"' then
      let s := String.ofList done.reverse
      .ok (if isName then st.acceptName s else st.accept (.str s))
    else .ok { st with token := .string isName begin (c :: done) Option.none .none }

/-- One character inside a string. -/
def State.inString (limits : Limits) (st : State) (isName : Bool) (begin : Nat) (done : List Char)
    (high : Option Nat) (escape : Escape) (c : Char) : Except Fault State :=
  match escape with
  | .none => st.inPlain limits isName begin done high c
  | .ended => st.inPlain limits isName begin done high c
  | .start =>
    if c == 'u' then .ok { st with token := .string isName begin done high (.unit 4 0) }
    else
      let (done, high) := settled limits done high
      match high, shortEscape? c with
      | none, some e => .ok { st with token := .string isName begin (e :: done) Option.none .none }
      | _, _ => .error ⟨.escape, st.position - 1⟩
  | .unit left code =>
    match Text.hexValue? c with
    | none => .error ⟨.unit, unitStart st.position left⟩
    | some d =>
      if left ≤ 1 then match unitDone? limits done high (16 * code + d) with
        | some (done, high) => .ok { st with token := .string isName begin done high .ended }
        | none => .error ⟨.unit, unitStart st.position left⟩
      else .ok { st with token := .string isName begin done high (.unit (left - 1) (16 * code + d)) }

/-- The longest proper beginning of a word that is a number or a word of JSON: its length and its
value. -/
def beginning? (limits : Limits) (word : List Char) : Option (Nat × Json) :=
  (List.range word.length).reverse.findSome? fun n =>
    (bare? limits (word.take n)).map fun v => (n, v)

/-- Takes in a finished number or word.  Where only its beginning is one, what follows that is out of
place. -/
def State.endBare (limits : Limits) (st : State) (begin : Nat) (word : List Char) :
    Except Fault State :=
  let accepted (number : List Char) (v : Json) : Except Fault State :=
    match excess? limits number with
    | some count => .error ⟨.digits count, begin⟩
    | none => .ok (st.accept v)
  match bare? limits word with
  | some v => accepted word v
  | none => match beginning? limits word with
    | some (n, v) => do ({ ← accepted (word.take n) v with position := begin + n } : State).refuse
    | none => .error ⟨.value, begin⟩

/-- One character. -/
def State.feed (limits : Limits) (st : State) (c : Char) : Except Fault State := do
  let next ← match st.token with
    | .none => st.between limits c
    | .string isName begin done high escape => st.inString limits isName begin done high escape c
    | .bare begin done =>
      if isBare c then .ok { st with token := .bare begin (c :: done) }
      else do (← st.endBare limits begin done.reverse).between limits c
  return { next with position := st.position + 1 }

/-- The value that the reader ends with, if the text may end here. -/
def State.finish (limits : Limits) (st : State) : Except Fault Json := do
  let st ← match st.token with
    | .none => .ok st
    | .bare begin done => st.endBare limits begin done.reverse
    | .string _ _ _ _ (.unit left _) => .error ⟨.unit, unitStart st.position left⟩
    | .string _ _ _ _ .ended => .error ⟨.unit, unitStart st.position 0⟩
    | .string _ begin _ _ _ => .error ⟨.openString, begin⟩
  match st.expected with
  | .finished v => return v
  | _ => st.refuse

end DicePool.Json.Reader

namespace DicePool.Json

/-- Reads a JSON text within limits. -/
def ofChars (limits : Reader.Limits) (s : List Char) : Except Reader.Fault Json := do
  (← s.foldlM (Reader.State.feed limits) Reader.State.start).finish limits

/-- Reads a JSON text. -/
def parse (s : String) : Except Reader.Fault Json :=
  ofChars .none s.toList

end DicePool.Json
