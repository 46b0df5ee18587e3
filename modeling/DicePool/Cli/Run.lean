import DicePool.Bot.Commands
import DicePool.Cli.App

/-!
# Cli/Run — running commands from a command line

A command line runs the same handlers as a gateway does.  Its dice are those of the seed on the command
line, or else of the settings; nobody in particular asks, and the reply is printed.
-/

namespace DicePool.Cli

/-- Why a run ends early. -/
inductive Failure where
  /-- An option is of no use. -/
  | misfit (m : Misfit)
  /-- The command failed, or what it needs could not be loaded. -/
  | command (e : Fault)
deriving DecidableEq, Repr

/-- How a run ends. -/
structure Outcome where
  /-- The exit code. -/
  exitCode : Nat
  /-- What is printed. -/
  out : String := ""
  /-- What is printed about errors. -/
  err : String := ""
  /-- Why the run ends early, if it does. -/
  failure : Option Failure := none

/-- A text as it is printed, without control sequences. -/
def plainText (s : String) : String :=
  String.ofList (Text.dropSequences s.toList)

/-- What is printed for a reply. -/
def printed (r : Reply) : String :=
  plainText ((if r.ephemeral then "(ephemeral) " else "") ++ r.content) ++ "\n"

/-- The outcome of a run that ends early. -/
def Outcome.ofFailure (e : Failure) : Outcome :=
  { exitCode := 1, failure := some e }

/-- The outcome of a command line that leads to no command. -/
def Outcome.ofHalt : Halt → Outcome
  | .help page => { exitCode := 0, out := plainText page }
  | .usage text => { exitCode := 2, err := plainText text }
  | .misfit m => .ofFailure (.misfit m)

/-- The outcome of a command. -/
def Outcome.ofReply : Except Fault Reply → Outcome
  | .ok r => { exitCode := 0, out := printed r }
  | .error e => .ofFailure (.command e)

/-- Who asks on a command line. -/
def invocation (c : Command (Handler Twister)) (settings : Settings) (known : List String) :
    Invocation where
  name := c.name
  subcommand := if c.isSub then c.subcommand else none
  userId := ""
  settings := some settings
  known := known

/-- Runs a command that was found. -/
def perform (settings : Settings) (known : List String) (found : Found (Handler Twister)) :
    BotM Twister Reply := do
  match found.command.form.check found.values with
  | .error problems => throw (.options problems)
  | .ok values => found.command.handler (invocation found.command settings known) values

/-- The dice of a run: those of a seed, or else of the settings, or else of chance. -/
def table (settings : Settings) (seed : Option Int) (entropy : Int) : Ruleset Twister where
  source := .ofSeed ((seed <|> settings.diceSeed).getD entropy)
  limit := settings.maxExplosions

/-- Runs a command line on a tree of commands, given the keys of all commands; also yields what the run
leaves, unless it ends before it begins. -/
def App.run (app : App (Handler Twister)) (known : List String) (around : Environment) (entropy : Int)
    (args : List String) : Outcome × Option (Session Twister) :=
  match app.resolve args with
  | .error halt => (.ofHalt halt, none)
  | .ok found => match Settings.load [] around with
    | .error e => (.ofFailure (.command (.settings e)), none)
    | .ok settings =>
      let start : Session Twister := { table := table settings found.seed entropy, entropy, around }
      let (outcome, s) := (perform settings known found).run.run start
      (.ofReply outcome, some s)

/-- Runs a command line with the commands of a registry. -/
def run (registry : Registry (Handler Twister)) (around : Environment) (entropy : Int)
    (args : List String) : Except ParamFault (Outcome × Option (Session Twister)) :=
  (App.build registry).map fun app => app.run registry.names around entropy args

end DicePool.Cli
