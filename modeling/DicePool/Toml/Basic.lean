import DicePool.Json.Order

/-!
# Toml/Basic — values of a configuration

The values of a configuration are those of JSON without null, and moments: dates, times of day, and both
together.  No setting is a moment, so `Value.setting` puts a value in its place that no field accepts.
-/

namespace DicePool.Toml

/-- What a moment tells. -/
inductive Clock where
  /-- A date. -/
  | date
  /-- A time of day. -/
  | time
  /-- A date and a time. -/
  | both
deriving DecidableEq, Repr

/-- A value of a configuration. -/
inductive Value where
  /-- A truth value. -/
  | bool (b : Bool)
  /-- A whole number. -/
  | int (n : Int)
  /-- A fractional number. -/
  | float (x : Float)
  /-- A string. -/
  | str (s : String)
  /-- A moment, in its normal form: a blank between date and time, six places of a second or none, and
  the offset as hours and minutes. -/
  | moment (clock : Clock) (text : String)
  /-- A list of values. -/
  | arr (items : List Value)
  /-- Named values, in order. -/
  | obj (fields : List (String × Value))
deriving Inhabited

/-- The word for the kind of a moment. -/
def Clock.kind : Clock → String
  | .date => "datetime.date"
  | .time => "datetime.time"
  | .both => "datetime.datetime"

namespace Value

mutual

/-- The value as JSON, where a moment is its text. -/
def toJson : Value → Json
  | .bool b => .bool b
  | .int n => .int n
  | .float x => .float x
  | .str s => .str s
  | .moment _ text => .str text
  | .arr items => .arr (itemsJson items)
  | .obj fields => .obj (fieldsJson fields)

/-- The items of a list as JSON. -/
def itemsJson : List Value → List Json
  | [] => []
  | v :: rest => v.toJson :: itemsJson rest

/-- The fields of a table as JSON. -/
def fieldsJson : List (String × Value) → List (String × Json)
  | [] => []
  | (name, v) :: rest => (name, v.toJson) :: fieldsJson rest

end

/-- The word for the kind of a value. -/
def kind : Value → String
  | .moment clock _ => clock.kind
  | v => v.toJson.kind

/-- Whether the value counts as true where a truth value is wanted. -/
def isTruthy (v : Value) : Bool :=
  v.toJson.isTruthy

/-- Whether the value is a list or a table. -/
def isContainer : Value → Bool
  | .arr _ => true
  | .obj _ => true
  | _ => false

/-- The value as a field is given it.  An empty list stands for a moment: no field accepts either. -/
def setting : Value → Json
  | .moment _ _ => .arr []
  | v => v.toJson

end Value

end DicePool.Toml
