import DicePool.Roll.Request

/-!
# Pool/Modifier — the words that name a modifier

Each modifier has one word or several, in lower case.
-/

namespace DicePool.Modifier

/-- The words of the modifiers. -/
def aliases : List (String × Modifier) :=
  [("rote", .rote),
   ("9again", .nineAgain), ("9-again", .nineAgain), ("nine-again", .nineAgain),
   ("8again", .eightAgain), ("8-again", .eightAgain), ("eight-again", .eightAgain),
   ("10again", .tenAgain), ("10-again", .tenAgain),
   ("no10again", .noExplode), ("noagain", .noExplode), ("no-again", .noExplode)]

/-- The modifier that a word names. -/
def ofWord? (word : List Char) : Option Modifier :=
  (aliases.find? fun a => a.1.toList == word).map (·.2)

end DicePool.Modifier
