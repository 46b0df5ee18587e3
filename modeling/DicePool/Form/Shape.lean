import DicePool.Json.Order
import DicePool.Form.Spelling

/-!
# Form/Shape — which values are accepted where

A shape says which JSON values are accepted and turns them into one spelling: `"1_000"`, `1000.0` and
`1000` are all accepted as a whole number and become `1000`.  A value that is not accepted is reported
with its place; a record reports all its fields, in order.
-/

namespace DicePool

/-- A step from a value to a value inside it. -/
inductive Place where
  /-- The field of a name. -/
  | field (name : String)
  /-- The item at a position. -/
  | item (index : Nat)
deriving DecidableEq, Repr

/-- Why a value is not accepted. -/
inductive Complaint where
  /-- A field is required and absent. -/
  | missing
  /-- The text is no JSON. -/
  | notJson
  /-- It is no string. -/
  | notAString
  /-- The string has too many characters. -/
  | stringTooLong
  /-- It is neither a truth value nor spelled like one, and no number or string. -/
  | notABool
  /-- The number or string does not spell a truth value. -/
  | unreadableBool
  /-- It is neither a whole number nor spelled like one. -/
  | notAnInt
  /-- The string does not spell a whole number. -/
  | unreadableInt
  /-- The whole number is too long. -/
  | intTooLong
  /-- The number has a fraction. -/
  | fractionalInt
  /-- The number is not finite. -/
  | notFinite
  /-- The number is too small. -/
  | tooSmall
  /-- It is no number. -/
  | notAFloat
  /-- The string does not spell a number. -/
  | unreadableFloat
  /-- It is no list. -/
  | notAList
  /-- It is no object. -/
  | notADict
  /-- It is no record of named values. -/
  | notARecord
deriving DecidableEq, Repr

/-- The code of a complaint. -/
def Complaint.code : Complaint → String
  | .missing => "missing"
  | .notJson => "json_invalid"
  | .notAString => "string_type"
  | .stringTooLong => "string_too_long"
  | .notABool => "bool_type"
  | .unreadableBool => "bool_parsing"
  | .notAnInt => "int_type"
  | .unreadableInt => "int_parsing"
  | .intTooLong => "int_parsing_size"
  | .fractionalInt => "int_from_float"
  | .notFinite => "finite_number"
  | .tooSmall => "greater_than_equal"
  | .notAFloat => "float_type"
  | .unreadableFloat => "float_parsing"
  | .notAList => "list_type"
  | .notADict => "dict_type"
  | .notARecord => "model_type"

/-- A complaint about the value at a place. -/
structure Problem where
  /-- The way to the value. -/
  place : List Place
  /-- What is wrong with it. -/
  complaint : Complaint
deriving DecidableEq, Repr

/-- A value, or what is wrong with it. -/
abbrev Checked (α : Type) := Except (List Problem) α

/-- A complaint about the value itself. -/
def complain {α : Type} (c : Complaint) : Checked α :=
  .error [⟨[], c⟩]

/-- Moves problems one step inside. -/
def inside {α : Type} (p : Place) (r : Checked α) : Checked α :=
  r.mapError fun problems => problems.map fun q => { q with place := p :: q.place }

/-- Two results together, or the problems of both. -/
def both {α β γ : Type} (f : α → β → γ) : Checked α → Checked β → Checked γ
  | .ok a, .ok b => .ok (f a b)
  | .error p, .error q => .error (p ++ q)
  | .error p, .ok _ => .error p
  | .ok _, .error q => .error q

/-! ## Scalars -/

/-- A string of up to so many characters. -/
def checkText (maxLength : Option Nat) : Json → Checked Json
  | .str s =>
    if maxLength.any (· < s.length) then complain .stringTooLong else .ok (.str s)
  | _ => complain .notAString

/-- The truth value that a word spells, in any case. -/
def truthOfWord? (word : String) : Option Bool :=
  let w := String.ofList (word.toList.map Char.toLower)
  if ["1", "t", "true", "y", "yes", "on"].contains w then some true
  else if ["0", "f", "false", "n", "no", "off"].contains w then some false
  else none

/-- Whether the number fits into 64 bits. -/
def isNarrow (n : Int) : Bool :=
  -0x8000000000000000 ≤ n && n < 0x8000000000000000

/-- A truth value, or a number or word that spells one.  A wrong number is unreadable if it is whole and
narrow, and else of a wrong kind. -/
def checkTruth (v : Json) : Checked Json :=
  let truthOfInt (n : Int) : Checked Json :=
    if n = 0 then .ok (.bool false) else if n = 1 then .ok (.bool true)
    else if isNarrow n then complain .unreadableBool
    else complain .notABool
  match v with
  | .bool b => .ok (.bool b)
  | .int n => truthOfInt n
  | .float x =>
    let exact := Number.Exact.ofBits x.toBits
    if x.isNaN || x.isInf || !exact.isWhole then complain .notABool
    else truthOfInt exact.truncate
  | .str s => match truthOfWord? s with
    | some b => .ok (.bool b)
    | none => complain .unreadableBool
  | _ => complain .notABool

/-- The whole number that a text spells. -/
def wholeOfText (s : String) : Checked Int :=
  match Spelling.whole s.toList with
  | .ok n => .ok n
  | .error .tooLong => complain .intTooLong
  | .error .malformed => complain .unreadableInt

/-- The whole number that a value spells. -/
def wholeOfValue : Json → Checked Int
  | .int n => .ok n
  | .bool b => .ok (if b then 1 else 0)
  | .float x =>
    if x.isNaN || x.isInf then complain .notFinite
    else
      let exact := Number.Exact.ofBits x.toBits
      if !exact.isWhole then complain .fractionalInt
      else if isNarrow exact.truncate then .ok exact.truncate
      else complain .intTooLong
  | .str s => wholeOfText s
  | _ => complain .notAnInt

/-- A whole number that is not too small. -/
def checkWhole (atLeast : Option Int) (v : Json) : Checked Json := do
  let n ← wholeOfValue v
  if atLeast.any (n < ·) then complain .tooSmall else return .int n

/-- A whole number as a double, unless it is too large for one. -/
def floatOfInt? (n : Int) : Option Float :=
  let x := Number.ofDecimal n.natAbs 0
  if x.isInf then none else some (if n < 0 then -x else x)

/-- A number, which becomes fractional. -/
def checkFraction : Json → Checked Json
  | .float x => .ok (.float x)
  | .int n => match floatOfInt? n with
    | some x => .ok (.float x)
    | none => complain .notAFloat
  | .bool b => .ok (.float (if b then 1.0 else 0.0))
  | .str s => match Spelling.fraction? s.toList with
    | some x => .ok (.float x)
    | none => complain .unreadableFloat
  | _ => complain .notAFloat

/-! ## Shapes -/

/-- Which values are accepted. -/
inductive Shape where
  /-- Strings, up to so many characters. -/
  | text (maxLength : Option Nat)
  /-- Whole numbers, from some number on. -/
  | whole (atLeast : Option Int)
  /-- Numbers. -/
  | fraction
  /-- Truth values. -/
  | truth
  /-- Objects of any content. -/
  | dict
  /-- Lists. -/
  | list (item : Shape)
  /-- Null, or what else is accepted. -/
  | nullable (s : Shape)
  /-- Objects with these fields; a field without a default is required. -/
  | record (fields : List (String × Option Json × Shape))

namespace Shape

mutual

/-- The value in its one spelling, or what is wrong with it. -/
def check : Shape → Json → Checked Json
  | .text maxLength, v => checkText maxLength v
  | .whole atLeast, v => checkWhole atLeast v
  | .fraction, v => checkFraction v
  | .truth, v => checkTruth v
  | .dict, v => match v with
    | .obj fields => .ok (.obj fields)
    | _ => complain .notADict
  | .list item, v => match v with
    | .arr items => (checkItems item 0 items).map .arr
    | _ => complain .notAList
  | .nullable s, v => match v with
    | .null => .ok .null
    | v => check s v
  | .record fields, v => match v with
    | .obj given => (checkFields fields given).map .obj
    | _ => complain .notARecord

/-- The items of a list, from a position on. -/
def checkItems (item : Shape) (i : Nat) : List Json → Checked (List Json)
  | [] => .ok []
  | v :: rest => both List.cons (inside (.item i) (check item v)) (checkItems item (i + 1) rest)

/-- The fields of a record; other fields are dropped. -/
def checkFields : List (String × Option Json × Shape) → Named Json → Checked (Named Json)
  | [], _ => .ok []
  | (name, fallback, s) :: rest, given =>
    let value := match Named.get? given name, fallback with
      | some v, _ => check s v
      | none, some d => .ok d
      | none, none => complain .missing
    both (fun v vs => (name, v) :: vs) (inside (.field name) value) (checkFields rest given)

end

end Shape

end DicePool
