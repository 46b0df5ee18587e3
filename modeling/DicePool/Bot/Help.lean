import DicePool.Bot.Session
import DicePool.Text.Case

/-!
# Bot/Help — the command that explains

The help has a part on rolling and a part on modifiers; a topic picks one of them.
-/

namespace DicePool.Bot

/-- The form of the help. -/
def helpForm : Form :=
  [⟨"topic", .nullable (.text (some 24)), some .null,
    some "Optional topic to focus help on (e.g., roll, modifiers)"⟩]

/-- The lines on rolling. -/
def rollingLines (maxPool : String) : List String :=
  ["Rolling:",
   "• /roll pool:<n> rolls n ten-sided dice (up to " ++ maxPool ++ ").",
   "• Each 8, 9 or 10 is a success; five or more is an exceptional success.",
   "• Pools can be sums like 3+2-1. Zero or less rolls a chance die.",
   "• /roll pool:chance rolls a chance die: only a 10 succeeds, a 1 botches.",
   ""]

/-- The lines on modifiers. -/
def modifierLines : List String :=
  ["Modifiers (add to the modifiers option or the pool text):",
   "• rote - re-roll every failed die once",
   "• 9again - 9s and 10s add another die",
   "• 8again - 8s, 9s and 10s add another die",
   "• no10again - nothing adds extra dice",
   "",
   "In results, extra dice from 10-again show as (v) and rote re-rolls as [v].",
   ""]

/-- The limit on pools that the help names: that of the settings, if there are any. -/
def helpLimit (settings : Option Settings) : Int :=
  (settings.map (·.maxPool)).getD Pool.defaultLimit

/-- The lines of the help.  The part on rolling shows only if there is a command that rolls. -/
def helpLines (maxPool : String) (known : List String) (topic : Option String) : List String :=
  let onRolling := (topic = none ∨ topic = some "roll") ∧ "roll" ∈ known
  let onModifiers := topic = none ∨ topic = some "roll" ∨ topic = some "modifiers"
  ["Darkroller — Chronicles of Darkness dice roller", ""]
    ++ (if onRolling then rollingLines maxPool else [])
    ++ (if onModifiers then modifierLines else [])
    ++ ["Examples: /roll pool:4 • /roll pool:chance • /roll pool:10 modifiers:9again rote"]

/-- The text of the help. -/
def helpText (settings : Option Settings) (known : List String) (topic : Option String) :
    Except NumeralError String := do
  let maxPool ← Numeral.write (helpLimit settings)
  return "\n".intercalate (helpLines maxPool known topic)

/-- The topic that an option names, in lower case and without blanks around it. -/
def topicOf (option : Option String) : Option String :=
  (option.map fun t => String.ofList (Text.lower (Text.strip t.toList))).filter (· ≠ "")

/-- The command that explains. -/
def help {σ : Type} (inv : Invocation) (topic : Option String) : BotM σ Reply := do
  BotM.count "help.view"
  match helpText inv.settings inv.known (topicOf topic) with
  | .error e => throw (.numeral e)
  | .ok text => return { content := text, ephemeral := true }

end DicePool.Bot
