import DicePool.Form.Shape

/-!
# Form/Basic — the options that a command takes

A form lists fields in order, each with the shape of its values, a value to fall back on if it is
optional, and words for people.  Names that begin with an underscore are reserved, and a field that is listed
again replaces the one of its name.  Checking a form against given values yields one value for each field.
-/

namespace DicePool

/-- A field of a form. -/
structure FormField where
  /-- Its name. -/
  name : String
  /-- The values that it accepts. -/
  shape : Shape
  /-- Its value where none is given; a field without one is required. -/
  fallback : Option Json := none
  /-- What it is for. -/
  description : Option String := none

/-- Fields in order. -/
abbrev Form := List FormField

namespace FormField

/-- Whether a value must be given. -/
def isRequired (f : FormField) : Bool :=
  f.fallback.isNone

end FormField

/-- A field whose name is reserved. -/
structure ReservedName where
  /-- The name. -/
  name : String
deriving DecidableEq, Repr

/-- The text of the failure. -/
def ReservedName.message (e : ReservedName) : String :=
  let free := e.name.toList.dropWhile (· == '_')
  let proposal := if free.isEmpty then "my_field" else String.ofList free
  "Fields must not use names with leading underscores; e.g., use "
    ++ String.ofList (Text.quoted proposal.toList) ++ " instead of "
    ++ String.ofList (Text.quoted e.name.toList) ++ "."

namespace Form

/-- The form of fields as they are listed. -/
def ofFields (listed : List FormField) : Except ReservedName Form :=
  let fields := (listed.foldl (fun fields f => Named.put fields f.name f) []).map (·.2)
  match fields.find? fun f => f.name.toList.head? == some '_' with
  | some f => .error ⟨f.name⟩
  | none => .ok fields

/-- The fields as they stand in a record. -/
def fields (form : Form) : List (String × Option Json × Shape) :=
  form.map fun f => (f.name, f.fallback, f.shape)

/-- One value for each field, or what is wrong with those given. -/
def check (form : Form) (given : Named Json) : Checked (Named Json) :=
  Shape.checkFields form.fields given

end Form

end DicePool
