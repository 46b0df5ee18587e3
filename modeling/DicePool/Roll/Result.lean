import DicePool.Dice.Face

/-!
# Roll/Result — the dice of a roll and what they amount to

A result lists its dice in the order in which they were drawn.  A die that was not rolled at first
names the die that caused it by its place.  The verdicts `isSuccess` and `isExceptional` are read off
the number of successes.
-/

namespace DicePool

/-- Why a die was rolled. -/
inductive Origin where
  /-- It belongs to the pool. -/
  | initial
  /-- Another die reached the threshold. -/
  | explosion
  /-- A die failed under the rote quality. -/
  | roteReroll
deriving DecidableEq, Repr

namespace Origin

/-- The name of an origin. -/
def name : Origin → String
  | .initial => "initial"
  | .explosion => "explosion"
  | .roteReroll => "rote-reroll"

/-- The origin of a name. -/
def ofName? (name : String) : Option Origin :=
  if name = "initial" then some .initial
  else if name = "explosion" then some .explosion
  else if name = "rote-reroll" then some .roteReroll
  else none

/-- **A name determines its origin.** -/
theorem ofName?_name (o : Origin) : ofName? o.name = some o := by
  cases o <;> decide

end Origin

/-- A die on the table. -/
structure Die where
  /-- What it shows. -/
  value : Pips
  /-- Why it was rolled. -/
  origin : Origin := .initial
  /-- The place of the die that caused it. -/
  trigger : Option Int := none
deriving DecidableEq, Repr

/-- The least value that is a success. -/
def successAt : Int := 8

/-- The value at which a chance die succeeds. -/
def chanceSuccessAt : Int := 10

/-- The value at which a chance die is botched. -/
def chanceBotchAt : Int := 1

/-- The least number of successes that is exceptional. -/
def exceptionalAt : Int := 5

/-- Whether the die is a success in a pool. -/
def Die.succeeds (d : Die) : Bool :=
  successAt ≤ d.value.count

/-- What a roll came to. -/
structure Result where
  /-- The dice, in the order in which they were drawn. -/
  dice : List Die
  /-- How many successes they are. -/
  successes : Int
  /-- Whether a chance die was rolled. -/
  isChance : Bool := false
  /-- Whether the chance die was botched. -/
  isBotch : Bool := false
  /-- How many dice exploded. -/
  explodedCount : Int := 0
deriving DecidableEq, Repr

namespace Result

/-- What the dice show. -/
def values (r : Result) : List Pips :=
  r.dice.map (·.value)

/-- Whether there is any success. -/
def isSuccess (r : Result) : Bool :=
  0 < r.successes

/-- Whether the successes are exceptional; those of a chance die never are. -/
def isExceptional (r : Result) : Bool :=
  !r.isChance && exceptionalAt ≤ r.successes

end Result

end DicePool
