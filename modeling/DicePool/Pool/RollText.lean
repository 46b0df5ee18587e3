import DicePool.Pool.Modifier
import DicePool.Pool.Sum

/-!
# Pool/RollText — the text of a roll

The text of a roll is a pool followed by modifiers, in any case: `3 + 2 - 1 rote 9again`.
`RollText.split?` sorts the words into the two groups, `requestOf` evaluates the pool, holds it
against a limit and sets the modifiers.
-/

namespace DicePool.Pool

open Text

/-- The words of a roll: those of the pool, then those that name modifiers. -/
structure RollText where
  /-- The words of the pool. -/
  pool : List (List Char)
  /-- The words of the modifiers. -/
  flags : List (List Char)
deriving DecidableEq, Repr

namespace RollText

/-- Whether the word may be part of a pool. -/
def isPoolWord (word : List Char) : Bool :=
  word == chance || (!word.isEmpty && word.all isSumChar)

/-- Takes in one more word. -/
def add (t : RollText) (word : List Char) : Except TextError RollText :=
  if (Modifier.ofWord? word).isSome then .ok { t with flags := t.flags ++ [word] }
  else if !t.flags.isEmpty then .error (.afterModifiers word)
  else if isPoolWord word then .ok { t with pool := t.pool ++ [word] }
  else .error (.unknownWord word)

/-- Sorts the words of a text into pool and modifiers. -/
def split (text : List Char) : Except TextError RollText :=
  match words (lower text) with
  | [] => .error .empty
  | ws => do
    let t ← ws.foldlM add ⟨[], []⟩
    if t.pool.isEmpty then .error .missingPool else .ok t

/-- The words of the pool, one blank between them. -/
def poolText (t : RollText) : List Char :=
  joinWith [' '] t.pool

/-- The modifiers that are named. -/
def modifiers (t : RollText) : Modifiers :=
  Modifiers.ofList (t.flags.filterMap Modifier.ofWord?)

/-- The refusal of a pool above the limit, unless one of the two cannot be written. -/
def tooManyDice (pool limit : Int) : Fault :=
  match Numeral.write pool, Numeral.write limit with
  | .ok p, .ok l => .refused (.tooManyDice p l)
  | .error e, _ => .numeral e
  | _, .error e => .numeral e

/-- The request of sorted words. -/
def request (limit : Int) (t : RollText) : Except Fault Request :=
  if t.pool.contains chance && t.pool != [chance] then .error (.refused .chanceNotAlone)
  else match Pool.size t.poolText with
    | .error e => .error e
    | .ok pool =>
      if limit < pool then .error (tooManyDice pool limit)
      else .ok { t.modifiers with poolSize := pool }

end RollText

/-- The limit on pools where no other is set. -/
def defaultLimit : Int := 100

/-- The request that the text of a roll makes, for pools up to a limit. -/
def requestOf (limit : Int) (text : List Char) : Except Fault Request :=
  match RollText.split text with
  | .error e => .error (.refused e)
  | .ok t => t.request limit

end DicePool.Pool
