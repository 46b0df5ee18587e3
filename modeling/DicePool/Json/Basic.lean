import DicePool.Named
import DicePool.Number.Numeral
import DicePool.Number.Shortest

/-!
# Json/Basic — JSON values

Whole numbers and fractional numbers are kept apart, because a text that says `5.0` is not answered
by one that says `5`.  The fields of an object keep the order in which they first came; a name that
comes again takes the later value and keeps its place.

`Json.display` is the text of a value for people: `None`, `True`, quoted strings, `[5]`,
`{'a': 1}`.
-/

namespace DicePool

/-- A JSON value. -/
inductive Json where
  /-- The absent value. -/
  | null
  /-- A truth value. -/
  | bool (b : Bool)
  /-- A whole number. -/
  | int (n : Int)
  /-- A fractional number. -/
  | float (x : Float)
  /-- A string. -/
  | str (s : String)
  /-- A list of values. -/
  | arr (items : List Json)
  /-- Named values, in order. -/
  | obj (fields : List (String × Json))
deriving Inhabited

namespace Json

/-- The value of a field of an object. -/
def field? (key : String) : Json → Option Json
  | .obj fields => Named.get? fields key
  | _ => none

/-- The value of a field, where an absent field counts as null. -/
def fieldD (key : String) (v : Json) : Json :=
  (v.field? key).getD .null

/-- The string, if the value is one. -/
def str? : Json → Option String
  | .str s => some s
  | _ => none

/-- The whole number, if the value is one. -/
def int? : Json → Option Int
  | .int n => some n
  | _ => none

/-- The truth value, if the value is one. -/
def bool? : Json → Option Bool
  | .bool b => some b
  | _ => none

/-- A value that may be absent; null stands for its absence. -/
def ofOption {α : Type} (f : α → Json) : Option α → Json
  | some a => f a
  | none => .null

/-- A string or null. -/
def strOrNull : Option String → Json := ofOption .str

/-- **A string or null reads back.** -/
theorem str?_strOrNull (o : Option String) : (strOrNull o).str? = o := by
  cases o <;> rfl

/-- **A whole number or null reads back.** -/
theorem int?_ofOption (o : Option Int) : (ofOption .int o).int? = o := by
  cases o <;> rfl

/-- A list of strings. -/
def ofStrings (l : List String) : Json := .arr (l.map .str)

/-- Whether the value counts as true where a truth value is wanted: null, false, zero and whatever
is empty do not. -/
def isTruthy : Json → Bool
  | .null => false
  | .bool b => b
  | .int n => n != 0
  | .float x => x != 0.0
  | .str s => s != ""
  | .arr items => !items.isEmpty
  | .obj fields => !fields.isEmpty

mutual

/-- The text of a value for people. -/
def display : Json → String
  | .null => "None"
  | .bool b => if b then "True" else "False"
  | .int n => toString n
  | .float x => Number.Layout.usual.text x
  | .str s => String.ofList (Text.quoted s.toList)
  | .arr items => "[" ++ ", ".intercalate (displayItems items) ++ "]"
  | .obj fields => "\x7b" ++ ", ".intercalate (displayFields fields) ++ "\x7d"

/-- The texts of the items of a list. -/
def displayItems : List Json → List String
  | [] => []
  | v :: rest => v.display :: displayItems rest

/-- The texts of the fields of an object. -/
def displayFields : List (String × Json) → List String
  | [] => []
  | (k, v) :: rest =>
    (String.ofList (Text.quoted k.toList) ++ ": " ++ v.display) :: displayFields rest

end

mutual

/-- Whether every whole number in a value is short enough to be written. -/
def isWritable : Json → Bool
  | .int n => n.natAbs < Nat.pow 10 Numeral.maxDigits
  | .arr items => areItemsWritable items
  | .obj fields => areFieldsWritable fields
  | _ => true

/-- Whether the items of a list can be written. -/
def areItemsWritable : List Json → Bool
  | [] => true
  | v :: rest => v.isWritable && areItemsWritable rest

/-- Whether the fields of an object can be written. -/
def areFieldsWritable : List (String × Json) → Bool
  | [] => true
  | (_, v) :: rest => v.isWritable && areFieldsWritable rest

end

/-- The text of a value for people, unless a number in it is too long. -/
def display? (v : Json) : Except NumeralError String :=
  if v.isWritable then .ok v.display else .error .tooLargeToWrite

/-- The text of a value in the middle of another text: a string is put there as it is. -/
def shown : Json → Except NumeralError String
  | .str s => .ok s
  | v => v.display?

theorem shown_int (n : Int) : (Json.int n).shown = Numeral.write n := by
  simp [shown, display?, isWritable, display, Numeral.write]

end Json

end DicePool
