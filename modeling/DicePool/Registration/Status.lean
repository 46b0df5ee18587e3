import DicePool.Json.Order
import DicePool.Text.Table

/-!
# Registration/Status — which commands are registered

The status is a table with a row for each command that there is.  What the service says is registered is
a value of any kind; one that is no list of objects with names is a `ListingError`.
-/

namespace DicePool.Registration

/-- What is wrong with a listing of commands. -/
inductive ListingError where
  /-- A field is missing. -/
  | missing (field : String)
  /-- A value of this kind has no items. -/
  | notIterable (kind : String)
  /-- A value of this kind has no fields. -/
  | noFields (kind : String)
  /-- A command is a value of this kind, which has no fields. -/
  | notACommand (kind : String)
  /-- A name is a value of this kind, which is none. -/
  | notAName (kind : String)
  /-- A number is too large to be shown. -/
  | numeral (e : NumeralError)
deriving DecidableEq, Repr

/-- The text of the failure. -/
def ListingError.message : ListingError → String
  | .missing field => String.ofList (Text.quoted field.toList)
  | .notIterable kind => s!"'{kind}' object is not iterable"
  | .noFields kind =>
    if kind = "str" then "string indices must be integers, not 'str'"
    else if kind = "list" then "list indices must be integers or slices, not str"
    else s!"'{kind}' object is not subscriptable"
  | .notACommand kind => s!"'{kind}' object has no attribute 'get'"
  | .notAName kind => s!"unhashable type: '{kind}'"
  | .numeral e => e.message

/-- The items of a value; those of a string are its characters, those of an object its names. -/
def itemsOf : Json → Except ListingError (List Json)
  | .arr items => .ok items
  | .str s => .ok (s.toList.map fun c => .str (String.singleton c))
  | .obj fields => .ok (fields.map fun f => .str f.1)
  | v => .error (.notIterable v.kind)

/-- A field of a value. -/
def fieldOf (field : String) : Json → Except ListingError Json
  | .obj fields => match Named.get? fields field with
    | some v => .ok v
    | none => .error (.missing field)
  | v => .error (.noFields v.kind)

/-- The name that a value has. -/
def nameOf (v : Json) : Except ListingError Json := do
  match ← fieldOf "name" v with
  | .arr l => .error (.notAName (Json.arr l).kind)
  | .obj l => .error (.notAName (Json.obj l).kind)
  | name => .ok name

/-- A field of a command, or another value if it has none of that name. -/
def commandField (field : String) (fallback : Json) : Json → Except ListingError Json
  | .obj fields => .ok (Named.getD fields field fallback)
  | v => .error (.notACommand v.kind)

/-- A value as text: a string as it is. -/
def textOf (v : Json) : Except ListingError String :=
  v.shown.mapError .numeral

/-- The line of an option. -/
def optionLine (o : Json) : Except ListingError String := do
  let name ← textOf (← fieldOf "name" o)
  let required := (o.fieldD "required").isTruthy
  return "- " ++ name ++ " (" ++ (if required then "Required" else "Optional") ++ ")"

/-- The lines of the options of a command. -/
def optionLines (command : Json) : Except ListingError String := do
  let options ← itemsOf (← commandField "options" (.arr []) command)
  let text := "\n".intercalate (← options.mapM optionLine)
  return if text = "" then "No options" else text

/-- The row of a command. -/
def row (registered : List Json) (command : Json) : Except ListingError (List Json) := do
  let options ← optionLines command
  let name ← nameOf command
  return [name, .str (if registered.any (name.same ·) then "Yes" else "No"),
    ← commandField "description" (.str "") command, .str options]

/-- The header of the table. -/
def header : List String := ["Command Name", "Registered", "Description", "Options"]

/-- The table of the commands that there are, given those that are registered. -/
def statusTable (commands registered : Json) : Except ListingError String := do
  let names ← (← itemsOf registered).mapM nameOf
  let rows ← (← itemsOf commands).mapM (row names)
  let texts ← rows.mapM fun r => r.mapM textOf
  let lines := Text.Table.render ((header :: texts).map fun r => r.map Text.Table.cell)
  return "".intercalate (lines.map fun l => String.ofList l ++ "\n")

/-- The line above the table. -/
def statusTitle (scope : String) : String :=
  "\nStatus for " ++ scope ++ " commands:\n"

end DicePool.Registration
