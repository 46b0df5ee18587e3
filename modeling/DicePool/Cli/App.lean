import DicePool.Cli.Station
import DicePool.Command.Basic

/-!
# Cli/App — the commands on a command line

The commands of a registry make up a tree.  Its root is a group with the option `--seed`; a name without
subcommands is a command in it, and a name with subcommands is a group of these.  `App.resolve` walks down
the tree along the words and ends at a command with its values, or says why there is none.
-/

namespace DicePool.Cli

/-- The option that seeds the dice. -/
def seedParam : Param where
  name := "seed"
  spelling := "--seed"
  kind := .whole
  fallback := .null
  help := "Seed the dice for a reproducible roll."

variable {η : Type}

/-- What a name stands for. -/
inductive Node (η : Type) where
  /-- A command. -/
  | leaf (c : Command η)
  /-- A group of commands by name. -/
  | group (members : Named (Command η))

/-- The node of commands of one name: the group of those that are subcommands, or the first of them. -/
def Node.ofGroup (group : List (Command η)) : Option (Node η) :=
  match group.filter Command.isSub, group with
  | s :: subs, _ =>
    some (.group ((s :: subs).foldl (fun l c => l.put (c.subcommand.getD "") c) []))
  | [], c :: _ => some (.leaf c)
  | [], [] => none

/-- The tree: a node for each name. -/
abbrev App (η : Type) := Named (Node η)

/-- The tree of a registry. -/
def App.ofRegistry (r : Registry η) : App η :=
  r.byName.filterMap fun (name, group) => (Node.ofGroup group).map fun n => (name, n)

/-- Why no command is run. -/
inductive Halt where
  /-- Help is asked for; this is the page. -/
  | help (page : String)
  /-- The words are wrong; this is printed. -/
  | usage (text : String)
  /-- An option is of no use. -/
  | misfit (m : Misfit)
deriving DecidableEq, Repr

/-- The commands of the tree, in order. -/
def App.commands (app : App η) : List (Command η) :=
  app.flatMap fun (_, node) => match node with
    | .leaf c => [c]
    | .group members => members.map (·.2)

/-- What is wrong with the first option that is wrong. -/
def App.fault? (app : App η) : Option ParamFault :=
  (app.commands.flatMap fun c => Param.ofForm c.form).findSome? Param.fault?

/-- The tree of a registry, if nothing is wrong with its options. -/
def App.build (r : Registry η) : Except ParamFault (App η) :=
  let app := App.ofRegistry r
  match app.fault? with
  | none => .ok app
  | some e => .error e

/-! ## Walking down the tree -/

namespace Station

/-- The failure of words that cannot be read. -/
def parseHalt (s : Station) (e : ParseError) : Halt :=
  .usage (if e.showsUsage then s.failure e.message else "Error: " ++ e.message ++ "\n")

/-- The failure of a value that cannot be converted. -/
def valueHalt (s : Station) (e : ValueError) : Halt :=
  match e.refusal with
  | .reason text => .usage (s.failure ("Invalid value for " ++ quote e.spelling ++ ": " ++ text))
  | .misfit m => .misfit m

/-- The first spelling that turns a flag off and does not begin like that of an option. -/
def bare? (s : Station) : Option String :=
  (s.params.filter fun p => p.hasOff && !p.offSpelling.startsWith "-").head?.map (·.offSpelling)

/-- Reads the words at a place: the values of its options, and what is left over. -/
def read (s : Station) (commands : List String) (words : List String) :
    Except Halt (Named Json × List String) := do
  if let some spelling := s.bare? then throw (.misfit (.bare spelling))
  let parsed ← (parse s.grammar words).mapError s.parseHalt
  if parsed.asksHelp then throw (.help (s.page commands))
  let values ← (values s.params parsed).mapError s.valueHalt
  return (values, parsed.rest)

/-- Reads the words at a group: the values of its options, the name of a command, and its words.
Without any words the page of help is printed. -/
def readGroup {α : Type} (s : Station) (members : Named α) (words : List String) :
    Except Halt (Named Json × String × α × List String) := do
  if words.isEmpty then throw (.usage (s.page members.names))
  let (values, rest) ← s.read members.names words
  match rest with
  | [] => throw (.usage (s.failure "Missing command."))
  | name :: rest => match members.get? name with
    | some a => return (values, name, a, rest)
    | none =>
      if isOption name then
        let _ ← s.read members.names (name :: rest)
      throw (.usage (s.failure ("No such command " ++ quote name ++ "."
        ++ didYouMean (Text.alike name members.names))))

/-- The failure of arguments that are left over. -/
def leftOver (s : Station) (rest : List String) : Halt :=
  .usage (s.failure ((if rest.length = 1 then "Got unexpected extra argument ("
    else "Got unexpected extra arguments (") ++ " ".intercalate rest ++ ")"))

/-- Reads the words at a command: the values of its options. -/
def readLeaf (s : Station) (words : List String) : Except Halt (Named Json) := do
  let (values, rest) ← s.read [] words
  if rest.isEmpty then return values else throw (s.leftOver rest)

end Station

/-- A command that was found, with its values. -/
structure Found (η : Type) where
  /-- The seed of the dice. -/
  seed : Option Int
  /-- The command. -/
  command : Command η
  /-- The values of its options. -/
  values : Named Json

/-- The place of a command. -/
def leafStation (path : List String) (c : Command η) : Station :=
  ⟨path, false, Param.ofForm c.form⟩

/-- The command that the words lead to. -/
def App.resolve (app : App η) (words : List String) : Except Halt (Found η) := do
  let root : Station := ⟨[], true, [seedParam]⟩
  let (given, name, node, words) ← root.readGroup app words
  let seed := (given.get? seedParam.name).bind Json.int?
  match node with
  | .leaf c => return ⟨seed, c, ← (leafStation [name] c).readLeaf words⟩
  | .group members =>
    let (_, sub, c, words) ← (⟨[name], true, []⟩ : Station).readGroup members words
    return ⟨seed, c, ← (leafStation [name, sub] c).readLeaf words⟩

end DicePool.Cli
