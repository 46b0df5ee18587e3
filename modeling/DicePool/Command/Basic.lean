import DicePool.Form.Basic

/-!
# Command/Basic — commands and their registry

A command has a name, perhaps a subcommand, a form for its options and a handler of any type `η`.  A
registry keeps commands by key, in the order in which the keys first came; registering a key again
replaces the command in its place.  A top-level command also answers for subcommands that it does not
have.
-/

namespace DicePool

/-- A command with a handler of type `η`. -/
structure Command (η : Type) where
  /-- Its name. -/
  name : String
  /-- What it does, in words. -/
  description : String
  /-- The options that it takes. -/
  form : Form
  /-- The name of the subcommand, if it is one. -/
  subcommand : Option String
  /-- What else is known about it. -/
  metadata : Named Json
  /-- What runs it. -/
  handler : η

/-- The key of a name with a subcommand; an empty subcommand counts as none. -/
def commandKey (name : String) (subcommand : Option String) : String :=
  match subcommand with
  | some sub => if sub = "" then name else name ++ ":" ++ sub
  | none => name

namespace Command

variable {η : Type}

/-- The key of a command. -/
def key (c : Command η) : String :=
  commandKey c.name c.subcommand

/-- Whether the command is a subcommand. -/
def isSub (c : Command η) : Bool :=
  c.subcommand.any (· ≠ "")

end Command

/-- Commands by key. -/
abbrev Registry (η : Type) := Named (Command η)

namespace Registry

variable {η : Type}

/-- Adds a command, or replaces the one of its key. -/
def register (r : Registry η) (c : Command η) : Registry η :=
  r.put c.key c

/-- The registry of commands in order. -/
def ofList (cs : List (Command η)) : Registry η :=
  cs.foldl register []

/-- The command for a name with a subcommand: the one of that key, or the top-level one. -/
def find? (r : Registry η) (name : String) (subcommand : Option String) : Option (Command η) :=
  r.get? (commandKey name subcommand) <|> r.get? name

/-- The commands, in order. -/
def commands (r : Registry η) : List (Command η) :=
  r.map (·.2)

/-- The commands of each name, names and commands in the order in which they came. -/
def byName (r : Registry η) : Named (List (Command η)) :=
  r.commands.foldl (fun groups c => groups.put c.name (groups.getD c.name [] ++ [c])) []

end Registry

end DicePool
