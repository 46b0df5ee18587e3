import DicePool.Roll.Resolve

/-!
# Roll/Ruleset — rolling again and again

A ruleset keeps a source of dice across rolls, the limit on explosions, and the faces drawn by the last
roll, which are kept even when that roll failed.
-/

namespace DicePool

/-- How many dice may explode in one roll where no other limit is set. -/
def defaultExplosions : Int := 10000

/-- A source of dice with its limit and the last draws. -/
structure Ruleset (σ : Type) where
  /-- Where faces come from. -/
  source : σ
  /-- How many dice may explode in one roll. -/
  limit : Int := defaultExplosions
  /-- The faces that the last roll drew. -/
  lastDraws : List Face := []

namespace Ruleset

variable {σ : Type} [Source σ]

/-- Rolls what is asked for. -/
def roll (request : Request) (rules : Ruleset σ) : Except RollError Result × Ruleset σ :=
  let (outcome, recorder) := (resolve request rules.limit).run.run (Recorder.ofSource rules.source)
  (outcome, { rules with source := recorder.inner, lastDraws := recorder.draws.toList })

/-- The result of the request when the last draws are rolled once more. -/
def replay (request : Request) (rules : Ruleset σ) : Except RollError Result × Script :=
  (resolve request rules.limit).run.run (Script.ofList rules.lastDraws)

end Ruleset

end DicePool
