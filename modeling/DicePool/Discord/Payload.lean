import DicePool.Command.Basic
import DicePool.Text.Blank

/-!
# Discord/Payload — commands as they are registered

A command is registered with its options, the required ones first.  Commands of one name that have
subcommands are registered as one, with a subcommand for each of them.
-/

namespace DicePool.Discord

/-- The type of an option. -/
inductive OptionType where
  /-- A subcommand. -/
  | subcommand
  /-- A string. -/
  | text
  /-- A whole number. -/
  | whole
  /-- A truth value. -/
  | truth
  /-- A number. -/
  | number
deriving DecidableEq, Repr

/-- The number of a type. -/
def OptionType.code : OptionType → Int
  | .subcommand => 1
  | .text => 3
  | .whole => 4
  | .truth => 5
  | .number => 10

/-- The type of the values of a shape; whatever has no type of its own is told as a string. -/
def OptionType.ofShape : Shape → OptionType
  | .whole _ => .whole
  | .fraction => .number
  | .truth => .truth
  | _ => .text

/-- The length of a description. -/
def descriptionLength : Nat := 100

/-- The description of a field: its own, or its name if it has none. -/
def descriptionOf (f : FormField) : String :=
  let own := Text.strip (f.description.getD "").toList
  String.ofList ((if own.isEmpty then f.name.toList else own).take descriptionLength)

/-- An option as it is registered. -/
structure OptionSpec where
  /-- The name. -/
  name : String
  /-- The description. -/
  description : String
  /-- The type of its values. -/
  type : OptionType
  /-- Whether it must be given. -/
  required : Bool
deriving DecidableEq, Repr

/-- The option of a field. -/
def OptionSpec.ofField (f : FormField) : OptionSpec :=
  ⟨f.name, descriptionOf f, .ofShape f.shape, f.isRequired⟩

/-- The option as a value. -/
def OptionSpec.toJson (o : OptionSpec) : Json :=
  .obj [("name", .str o.name), ("description", .str o.description), ("type", .int o.type.code),
    ("required", .bool o.required)]

/-- The options of a form: the required ones, then the others. -/
def optionSpecs (form : Form) : List OptionSpec :=
  let all := form.map OptionSpec.ofField
  all.filter (·.required) ++ all.filter (!·.required)

/-- A subcommand as it is registered. -/
structure SubcommandSpec where
  /-- The name. -/
  name : String
  /-- The description. -/
  description : String
  /-- The options. -/
  options : List OptionSpec
deriving DecidableEq, Repr

/-- The subcommand as a value. -/
def SubcommandSpec.toJson (s : SubcommandSpec) : Json :=
  .obj [("type", .int OptionType.subcommand.code), ("name", .str s.name),
    ("description", .str s.description), ("options", .arr (s.options.map OptionSpec.toJson))]

/-- What a registered command offers. -/
inductive Offer where
  /-- Options. -/
  | options (l : List OptionSpec)
  /-- Subcommands. -/
  | subcommands (l : List SubcommandSpec)
deriving DecidableEq, Repr

/-- The offer as a value. -/
def Offer.toJson : Offer → Json
  | .options l => .arr (l.map OptionSpec.toJson)
  | .subcommands l => .arr (l.map SubcommandSpec.toJson)

/-- A command as it is registered. -/
structure CommandSpec where
  /-- The name. -/
  name : String
  /-- The description. -/
  description : String
  /-- What it offers. -/
  offer : Offer
deriving DecidableEq, Repr

/-- The command as a value; commands that are typed have type 1. -/
def CommandSpec.toJson (c : CommandSpec) : Json :=
  .obj [("name", .str c.name), ("description", .str c.description), ("type", .int 1),
    ("options", c.offer.toJson)]

variable {η : Type}

/-- A subcommand of a command. -/
def SubcommandSpec.ofCommand (c : Command η) : SubcommandSpec :=
  ⟨c.subcommand.getD "", c.description, optionSpecs c.form⟩

/-- The command that commands of one name are registered as: the first of them, unless some are
subcommands. -/
def CommandSpec.ofGroup (name : String) (group : List (Command η)) : Option CommandSpec :=
  match group.filter Command.isSub, group with
  | s :: subs, _ =>
    some ⟨name, s.description, .subcommands ((s :: subs).map SubcommandSpec.ofCommand)⟩
  | [], c :: _ => some ⟨name, c.description, .options (optionSpecs c.form)⟩
  | [], [] => none

/-- The commands of a registry as they are registered. -/
def payload (r : Registry η) : List CommandSpec :=
  r.byName.filterMap fun (name, group) => CommandSpec.ofGroup name group

end DicePool.Discord
