import DicePool.Bot.Help
import DicePool.Bot.Roll

/-!
# Bot/Commands — the commands that there are

Two commands are registered, `help` and `roll`.
-/

namespace DicePool.Bot

variable {σ : Type}

/-- The command `help`. -/
def helpCommand : Command (Handler σ) where
  name := "help"
  description := "Show how to roll dice with Darkroller."
  form := helpForm
  subcommand := none
  metadata := []
  handler inv values := help inv ((values.get? "topic").bind Json.str?)

/-- The command `roll`. -/
def rollCommand [Source σ] : Command (Handler σ) where
  name := "roll"
  description := "Roll a Chronicles of Darkness dice pool (e.g., 5 9again)."
  form := RollOptions.form
  subcommand := none
  metadata := []
  handler inv values := roll inv (.ofValues values)

/-- All commands. -/
def commands [Source σ] : Registry (Handler σ) :=
  .ofList [helpCommand, rollCommand]

end DicePool.Bot
