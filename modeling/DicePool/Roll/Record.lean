import DicePool.Json.Order
import DicePool.Roll.Request
import DicePool.Roll.Result

/-!
# Roll/Record — what is kept of a roll

A record keeps a roll as JSON values and changes none of them.  A record of a roll that was made here holds
whole numbers and truth values (`Result.record`, `Request.record`); one that comes from elsewhere may hold
anything in their place.  A value counts as true unless it is empty or zero, and what is not a number cannot
be compared with one.
-/

namespace DicePool

/-- What is kept of a die. -/
structure Record.Die where
  /-- What it shows. -/
  value : Json
  /-- Why it was rolled. -/
  origin : Origin := .initial
  /-- The place of the die that caused it. -/
  trigger : Json := .null

/-- What is kept of a request. -/
structure Record.Request where
  /-- The number of dice. -/
  poolSize : Json
  /-- Whether failed dice are rolled again, once. -/
  rote : Json := .bool false
  /-- Whether nines and tens add a die. -/
  nineAgain : Json := .bool false
  /-- Whether eights, nines and tens add a die. -/
  eightAgain : Json := .bool false
  /-- Whether nothing adds a die. -/
  noExplode : Json := .bool false

/-- What is kept of a roll. -/
structure Record where
  /-- The dice, in order. -/
  dice : List Record.Die
  /-- How many successes they are. -/
  successes : Json
  /-- Whether a chance die was rolled. -/
  isChance : Json := .bool false
  /-- Whether the chance die was botched. -/
  isBotch : Json := .bool false
  /-- How many dice exploded. -/
  explodedCount : Json := .int 0

/-- Why a record cannot be read. -/
inductive RecordError where
  /-- A number is too long. -/
  | numeral (e : NumeralError)
  /-- A value stands in the place of a number. -/
  | incomparable (e : Json.Incomparable)
  /-- A value of this kind stands in the place of a whole number. -/
  | notWhole (kind : String)
deriving DecidableEq, Repr

/-- The text of the failure. -/
def RecordError.message : RecordError → String
  | .numeral e => e.message
  | .incomparable e => e.message
  | .notWhole kind => s!"'{kind}' object cannot be interpreted as an integer"

/-! ## Rolls made here -/

/-- What is kept of the die. -/
def Die.record (d : Die) : Record.Die :=
  ⟨d.value.toJson, d.origin, Json.ofOption .int d.trigger⟩

/-- What is kept of the request. -/
def Request.record (q : Request) : Record.Request :=
  ⟨.int q.poolSize, .bool q.rote, .bool q.nineAgain, .bool q.eightAgain, .bool q.noExplode⟩

/-- What is kept of the roll. -/
def Result.record (r : Result) : Record :=
  ⟨r.dice.map Die.record, .int r.successes, .bool r.isChance, .bool r.isBotch, .int r.explodedCount⟩

theorem Pips.shown_toJson (p : Pips) : p.toJson.shown = p.text := by
  cases p with
  | number n => exact Json.shown_int n
  | truth b => cases b <;> rfl

/-! ## Payloads -/

namespace Record

/-- The die as JSON. -/
def Die.payload (d : Die) : Json :=
  .obj [("value", d.value), ("origin", .str d.origin.name), ("trigger", d.trigger)]

namespace Request

/-- The fields of the request. -/
def fields (q : Request) : Named Json :=
  [("pool_size", q.poolSize), ("rote", q.rote), ("nine_again", q.nineAgain),
    ("eight_again", q.eightAgain), ("no_explode", q.noExplode)]

/-- The request as JSON. -/
def payload (q : Request) : Json :=
  .obj q.fields

end Request

/-- The fields of the roll. -/
def fields (r : Record) : Named Json :=
  [("dice", .arr (r.dice.map Die.payload)), ("successes", r.successes),
    ("is_chance_die", r.isChance), ("is_botch", r.isBotch), ("exploded_count", r.explodedCount)]

/-- The roll as JSON. -/
def payload (r : Record) : Json :=
  .obj r.fields

/-! ## What a record says -/

namespace Request

/-- The modifiers that are set. -/
def modifiers (q : Request) : Modifiers where
  rote := q.rote.isTruthy
  nineAgain := q.nineAgain.isTruthy
  eightAgain := q.eightAgain.isTruthy
  noExplode := q.noExplode.isTruthy

/-- Whether a single chance die is rolled. -/
def isChance (q : Request) : Except RecordError Bool :=
  (q.poolSize.compare? .atMost (.int 0)).mapError .incomparable

/-- The modifiers that show in a description; a chance die shows none. -/
def describe (q : Request) : Except RecordError (List String) := do
  return if ← q.isChance then [] else q.modifiers.shown

/-- The request that is meant.  Whatever asks for a chance die will do, but dice can only be counted by a
whole number or a truth value. -/
def meant (q : Request) : Except RecordError DicePool.Request := do
  if ← q.isChance then return { q.modifiers with poolSize := 0 }
  match q.poolSize with
  | .int n => return { q.modifiers with poolSize := n }
  | .bool b => return { q.modifiers with poolSize := if b then 1 else 0 }
  | v => throw (.notWhole v.kind)

end Request

/-- What the dice show. -/
def values (r : Record) : List Json :=
  r.dice.map (·.value)

/-- Whether there is any success. -/
def isSuccess (r : Record) : Except RecordError Bool :=
  (r.successes.compare? .above (.int 0)).mapError .incomparable

/-- Whether the successes are exceptional; those of a chance die never are. -/
def isExceptional (r : Record) : Except RecordError Bool :=
  if r.isChance.isTruthy then .ok false
  else (r.successes.compare? .atLeast (.int exceptionalAt)).mapError .incomparable

end Record

/-! ## Rolls made here are read as they are -/

theorem mapError_ok {ε ε' α : Type} (f : ε → ε') (x : α) :
    (Except.ok x : Except ε α).mapError f = .ok x := rfl

theorem mapError_error {ε ε' α : Type} (f : ε → ε') (e : ε) :
    (Except.error e : Except ε α).mapError f = .error (f e) := rfl

theorem Request.describe_record (q : Request) : q.record.describe = .ok q.describe := by
  simp [Record.Request.describe, Record.Request.isChance, Request.record, Json.compare?_int,
    Json.Comparison.holds, mapError_ok, Json.isTruthy, Request.describe,
    Record.Request.modifiers, Request.isChance, bind, Except.bind, pure, Except.pure]

theorem Result.isSuccess_record (r : Result) : r.record.isSuccess = .ok r.isSuccess := by
  simp [Record.isSuccess, Result.record, Json.compare?_int, Result.isSuccess,
    Json.Comparison.holds, mapError_ok]
  grind

theorem Result.isExceptional_record (r : Result) :
    r.record.isExceptional = .ok r.isExceptional := by
  cases h : r.isChance <;>
    simp [Record.isExceptional, Result.record, Json.compare?_int, Result.isExceptional,
      Json.Comparison.holds, mapError_ok, h, Json.isTruthy]

end DicePool
