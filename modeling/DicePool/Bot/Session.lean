import DicePool.Bot.Recent
import DicePool.Command.Basic
import DicePool.Dice.Twister
import DicePool.Discord.Interaction
import DicePool.Journal
import DicePool.Metrics
import DicePool.Network
import DicePool.Pool.RollText
import DicePool.Roll.Audit
import DicePool.Roll.Ruleset
import DicePool.Settings.Sources

/-!
# Bot/Session — what commands run on

A session holds everything that a command may change: the metrics, the dice on the table, the dice
that rolls without a table share, the network, and the journal.  Commands run in `BotM`, where a fault
keeps the changes that were made before it.
-/

namespace DicePool

/-- Why a command fails. -/
inductive Fault where
  /-- The dice failed. -/
  | roll (e : RollError)
  /-- A number is too long to be read or written. -/
  | numeral (e : NumeralError)
  /-- A number is too large for the fingerprint. -/
  | outOfRange (e : OutOfRange)
  /-- The settings cannot be loaded. -/
  | settings (e : SettingsError)
  /-- The options are not accepted. -/
  | options (problems : List Problem)
  /-- A reply could not be delivered. -/
  | delivery (e : DeliveryError)
  /-- The interaction names no command. -/
  | noCommand
  /-- The options of the interaction cannot be taken apart. -/
  | interaction (e : Discord.OptionsError)
deriving DecidableEq, Repr

/-- The text of a fault; problems are told otherwise. -/
def Fault.message : Fault → String
  | .roll e => e.message
  | .numeral e => e.message
  | .outOfRange e => e.message
  | .settings e => e.message
  | .options _ => "invalid options"
  | .delivery e => e.message
  | .noCommand => ""
  | .interaction e => e.message

/-- What a command says. -/
structure Reply where
  /-- The text. -/
  content : String
  /-- Whether only the asker sees it. -/
  ephemeral : Bool := false
deriving DecidableEq, Repr

/-- Who asks for a command, and under which settings. -/
structure Invocation where
  /-- The name of the command. -/
  name : String
  /-- The name of the subcommand. -/
  subcommand : Option String := none
  /-- The user who asks. -/
  userId : String
  /-- The guild in which the user asks. -/
  guildId : Option String := none
  /-- The settings; a command that needs some loads them if there are none. -/
  settings : Option Settings := none
  /-- Whether the dice on the table are used. -/
  usesTable : Bool := true
  /-- The keys of the commands that there are. -/
  known : List String

/-- Everything that a command may change, with dice from `σ` on the table. -/
structure Session (σ : Type) where
  /-- The dice on the table. -/
  table : Ruleset σ
  /-- Counters and histograms. -/
  metrics : Metrics := {}
  /-- The dice that rolls without a table share, by seed and limit. -/
  shared : Recent (Option Int × Int) (Ruleset Twister) := []
  /-- The seed for dice that have none. -/
  entropy : Int := 0
  /-- What the run finds around it. -/
  around : Environment := {}
  /-- The network. -/
  network : Network := {}
  /-- The events so far. -/
  journal : Array Event := #[]

/-- Running a command. -/
abbrev BotM (σ : Type) := ExceptT Fault (StateM (Session σ))

/-- What runs a command: it takes checked options and replies. -/
abbrev Handler (σ : Type) := Invocation → Named Json → BotM σ Reply

namespace BotM

variable {σ : Type}

/-- Reports an event. -/
def report (e : Event) : BotM σ Unit :=
  modify fun s => { s with journal := s.journal.push e }

/-- Reports events in order. -/
def reportAll (l : Journal) : BotM σ Unit :=
  modify fun s => { s with journal := s.journal ++ l }

/-- Counts once. -/
def count (name : String) : BotM σ Unit :=
  modify fun s => { s with metrics := s.metrics.increment name }

/-- Counts once if a condition holds. -/
def countIf (condition : Bool) (name : String) : BotM σ Unit :=
  if condition then count name else pure ()

/-- Adds a measured value to a histogram. -/
def measure (name : String) (n : Int) : BotM σ Unit :=
  modify fun s => { s with metrics := s.metrics.observe name n }

/-- Sends a request. -/
def exchange (r : WebRequest) : BotM σ (Except DeliveryError Response) :=
  modifyGet fun s =>
    let (outcome, network) := s.network.send r
    (outcome, { s with network })

/-- The outcome of a command, whether it fails or not. -/
def outcome {α : Type} (x : BotM σ α) : BotM σ (Except Fault α) :=
  ExceptT.lift x.run

end BotM

end DicePool
