import DicePool.Dice.Source
import DicePool.Journal
import DicePool.Roll.Record

/-!
# Roll/Resolve — rolling a pool

`resolve` draws the dice of a request from a source, one face at a time.

* A pool of no dice rolls a **chance die**: a ten succeeds and a one is botched.
* Any other pool rolls its dice; an eight or more is a success.
* The **rote** quality rolls each failed die of the pool again, once, after the whole pool; the failed
  die stays on the table.
* **Explosions** walk over all dice in order: a die at or above the threshold adds a die at the end,
  which is reached in its turn.  At most `limit` dice are added.

Drawing happens in `RollM`, where a failure keeps what was drawn: the source has moved on.
-/

namespace DicePool

/-- What the text of a failure would show, and is too long. -/
inductive Unwritable where
  /-- What a source returned. -/
  | face (e : NumeralError)
  /-- The limit on explosions, which was passed. -/
  | limit (n : Int) (e : NumeralError)
deriving DecidableEq, Repr

/-- Why it cannot be written. -/
def Unwritable.fault : Unwritable → NumeralError
  | .face e => e
  | .limit _ e => e

instance : Coe Unwritable NumeralError := ⟨Unwritable.fault⟩

/-- Why a roll has no result. -/
inductive RollError where
  /-- The source hands out no face; its failure is passed on as it is. -/
  | exhausted (e : Exhausted)
  /-- The source returned something that is no face of a die, shown as text. -/
  | invalidFace (shown : String)
  /-- More dice than the limit would have exploded. -/
  | runaway (limit : Int)
  /-- The text of another failure cannot be written. -/
  | unwritable (e : Unwritable)
deriving DecidableEq, Repr

/-- The text of the failure. -/
def RollError.message : RollError → String
  | .exhausted e => e.message
  | .invalidFace shown => s!"Randomness source returned {shown}, expected 1-10"
  | .runaway limit => s!"Explosion limit of {limit} dice exceeded; check the randomness source"
  | .unwritable e => e.fault.message

/-- The refusal of a face that no die shows. -/
def RollError.ofFace : Face → RollError
  | .pips p => match p.text with
    | .ok shown => .invalidFace shown
    | .error e => .unwritable (.face e)
  | .foreign v => match v.display? with
    | .ok shown => .invalidFace shown
    | .error e => .unwritable (.face e)

/-- The refusal of a die beyond the limit.  A limit below zero is passed by the first die that explodes,
however long the limit is; any other is passed only after as many dice, which are never so many that their
number could not be written. -/
def RollError.ofLimit (limit : Int) : RollError :=
  if 0 ≤ limit then .runaway limit
  else match Numeral.write limit with
    | .ok _ => .runaway limit
    | .error e => .unwritable (.limit limit e)

/-- Drawing from a source `σ`. -/
abbrev RollM (σ : Type) := ExceptT RollError (StateM σ)

variable {σ : Type} [Source σ]

/-- Takes a face for what a die shows. -/
def pipsOf : Except Exhausted Face → Except RollError Pips
  | .error e => .error (.exhausted e)
  | .ok face => match face.valid? with
    | some p => .ok p
    | none => .error (.ofFace face)

/-- Draws what the next die shows. -/
def drawPips : RollM σ Pips := do
  liftExcept (pipsOf (← modifyGet Source.draw))

/-- Rolls `n` dice of a pool. -/
def rollPool : Nat → Array Die → RollM σ (Array Die)
  | 0, dice => pure dice
  | n + 1, dice => do
    let p ← drawPips
    rollPool n (dice.push { value := p })

/-- The places of the dice that failed. -/
def failures (dice : Array Die) : List Nat :=
  (List.range dice.size).filter fun i => dice[i]?.any fun d => !d.succeeds

/-- Rolls the dice at some places again. -/
def rollAgain : List Nat → Array Die → RollM σ (Array Die)
  | [], dice => pure dice
  | i :: places, dice => do
    let p ← drawPips
    rollAgain places (dice.push { value := p, origin := .roteReroll, trigger := some i })

/-- Walks over the dice from place `i` on and adds a die for each at or above the threshold, as long
as `left` dice may be added. -/
def explode (threshold : Nat) (limit : Int) (left i : Nat) (dice : Array Die) :
    RollM σ (Array Die) := do
  if h : i < dice.size then
    if dice[i].value.count < threshold then explode threshold limit left (i + 1) dice
    else match left with
      | 0 => throw (.ofLimit limit)
      | left + 1 =>
        let p ← drawPips
        explode threshold limit left (i + 1)
          (dice.push { value := p, origin := .explosion, trigger := some i })
  else pure dice
termination_by left + (dice.size - i)

/-- Rolls a chance die. -/
def rollChance : RollM σ Result := do
  let p ← drawPips
  return {
    dice := [{ value := p }]
    successes := if p.count = chanceSuccessAt then 1 else 0
    isChance := true
    isBotch := p.count = chanceBotchAt }

/-- Rolls what is asked for, adding at most `limit` dice by explosion. -/
def resolve (request : Request) (limit : Int) : RollM σ Result := do
  if request.isChance then rollChance
  else
    let pool ← rollPool request.poolSize.toNat #[]
    let rolled ← if request.rote then rollAgain (failures pool) pool else pure pool
    let dice ← match request.threshold with
      | none => pure rolled
      | some t => explode t limit limit.toNat 0 rolled
    return {
      dice := dice.toList
      successes := dice.toList.countP Die.succeeds
      explodedCount := dice.size - rolled.size }

/-- What resolving reports before the first die falls. -/
def startEvent (request : Record.Request) : Event :=
  .debug "rules.pool.resolve.start" request.fields

/-- What resolving reports before it refuses a die beyond the limit. -/
def runawayEvent (request : Record.Request) (limit : Int) : Event :=
  .error "rules.pool.resolve.runaway"
    [("pool_size", request.poolSize), ("max_explosions", .int limit)]

/-- What resolving reports. -/
def resolveJournal (request : Record.Request) (outcome : Except RollError Result) : Journal :=
  startEvent request
    :: match outcome with
      | .ok r =>
        if r.isChance then
          [.debug "rules.pool.resolve.chance"
            [("value", (r.values.head?.map Pips.toJson).getD .null), ("botch", .bool r.isBotch)]]
        else
          [.debug "rules.pool.resolve.result"
            [("values", .arr (r.values.map Pips.toJson)), ("successes", .int r.successes),
              ("exploded_count", .int r.explodedCount)]]
      | .error (.runaway limit) => [runawayEvent request limit]
      | .error (.unwritable (.limit n _)) => [runawayEvent request n]
      | .error _ => []

end DicePool
