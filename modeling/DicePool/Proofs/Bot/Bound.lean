import DicePool.Proofs.Bot.Running
import DicePool.Proofs.Pool.RollText
import DicePool.Proofs.Roll.Bound

/-!
# Proofs/Bot/Bound — how much the command that rolls takes from its dice

The text of a roll is held against the limit on pools as a whole, whatever its terms are, and a text
that makes no request never comes near the dice. Main statement `roll_draws_within`: the command draws
at most twice the limit on pools and the limit on explosions together, and walks over its dice in as
many rounds, from the dice on the table as well as from those that are shared, whatever they show and
however the roll ends.
-/

namespace DicePool

/-! ## Rulesets -/

namespace Ruleset

variable {σ : Type} [Source σ]

/-- What a roll for a request took from a ruleset lies within a bound. -/
structure RollsWithin (q : Request) (bound : Int) (rules rules' : Ruleset σ) : Prop where
  /-- It took its faces in so many draws, of which the last may have failed. -/
  draws : ∃ n : Nat, n ≤ bound ∧ takeFaces n rules.source = (rules'.lastDraws, rules'.source)
  /-- It drew so many faces. -/
  faces : rules'.lastDraws.length ≤ bound
  /-- From any source, its walk over the dice may be cut off after so many rounds. -/
  rounds : ∀ {τ : Type} [Source τ] (n : Nat), bound ≤ n →
    (resolveWithin n q rules.limit : RollM τ (Option Result)) = some <$> resolve q rules.limit

/-- **A roll of a pool that is not too large stays within the bound.** -/
theorem rollsWithin_roll {q : Request} {rules : Ruleset σ} {limit : Int} (hlimit : 1 ≤ limit)
    (hpool : q.poolSize ≤ limit) (hcap : 0 ≤ rules.limit) :
    rules.RollsWithin q (2 * limit + rules.limit) (rules.roll q).2 := by
  obtain ⟨faces, outcome, s', h⟩ := q.exists_draws rules.limit [] rules.source
  have hopening : (q.opening : Int) ≤ limit := by
    unfold Request.opening
    split <;> omega
  have hlength := h.length_le (Nat.zero_le _)
  rw [List.length_nil, Nat.zero_add] at hlength
  rw [roll_of_draws h]
  refine ⟨⟨_, ?_, h.takeFaces_eq⟩, ?_, fun n hn => resolveWithin_eq q rules.limit ?_⟩
  · omega
  · dsimp only
    omega
  · omega

end Ruleset

/-! ## The command -/

namespace Bot

open BotM Pool

variable {σ : Type} [Source σ]

/-- The dice that rolls without a table share under some settings. -/
def sharedRules (settings : Settings) (s : Session σ) : Ruleset Twister :=
  (s.shared.get? (settings.diceSeed, settings.maxExplosions)).getD
    { source := .ofSeed (settings.diceSeed.getD s.entropy), limit := settings.maxExplosions }

/-- How many dice may explode in a roll of an invocation. -/
def capOf (inv : Invocation) (settings : Settings) (s : Session σ) : Int :=
  if inv.usesTable then s.table.limit else (sharedRules settings s).limit

/-- **What follows the cast leaves the dice alone**, whether it fails or not. -/
theorem dice_of_answerRoll (inv : Invocation) (settings : Settings) (q : Request) (s : Session σ) :
    ((answerRoll inv settings q).runOn s).2.table = (cast inv settings q s).2.table ∧
      ((answerRoll inv settings q).runOn s).2.shared = (cast inv settings q s).2.shared := by
  rcases hcast : cast inv settings q s with ⟨e | r, s'⟩
  · rw [runOn_answerRoll_of_error hcast]
    exact ⟨rfl, rfl⟩
  · rw [runOn_answerRoll hcast]
    cases r.digest (some q) <;> exact ⟨rfl, rfl⟩

/-- A request that a text makes is for no more dice than the limit, whatever modifiers are added. -/
theorem poolSize_le_of_requestOf {limit : Int} {text : List Char} {q : Request}
    (h : requestOf limit text = .ok q) (m : Modifiers) : (q.withModifiers m).poolSize ≤ limit := by
  obtain ⟨_, _, -, hasks⟩ := requestOf_eq_ok_iff.1 h
  exact hasks.poolSize_le

/-- **The command that rolls takes from its dice no more than the configuration allows** — twice the
limit on pools and the limit on explosions together: so many draws, from any dice whatsoever, and so
many rounds of the walk over them. A text that makes no request takes nothing. -/
theorem roll_draws_within {inv : Invocation} {options : RollOptions} {settings : Settings}
    {s : Session σ} (hsettings : ((settingsOf inv).runOn s).1 = .ok settings)
    (hlimit : 1 ≤ settings.maxPool) (hcap : 0 ≤ capOf inv settings s) :
    let after := ((roll inv options).runOn s).2
    let bound := 2 * settings.maxPool + capOf inv settings s
    (∀ e, requestOf settings.maxPool options.text.toList = .error e →
      after.table = s.table ∧ after.shared = s.shared) ∧
    ∀ q₀, requestOf settings.maxPool options.text.toList = .ok q₀ →
      let q := q₀.withModifiers options.toModifiers
      (inv.usesTable = true →
        s.table.RollsWithin q bound after.table ∧ after.shared = s.shared) ∧
      (inv.usesTable = false → after.table = s.table ∧
        ∃ rules, (sharedRules settings s).RollsWithin q bound rules ∧
          after.shared = s.shared.keep sharedSize (settings.diceSeed, settings.maxExplosions) rules) := by
  intro after bound
  have hafter : after = ((roll inv options).runOn s).2 := rfl
  rw [runOn_roll hsettings] at hafter
  refine ⟨fun e he => ?_, ?_⟩
  · rw [hafter, he]
    cases e with
    | refused e =>
      dsimp only
      rw [runOn_refuse]
      exact ⟨rfl, rfl⟩
    | numeral e => exact ⟨rfl, rfl⟩
  · intro q₀ hq₀ q
    have hpool : q.poolSize ≤ settings.maxPool := poolSize_le_of_requestOf hq₀ _
    rw [hq₀] at hafter
    obtain ⟨htable, hshared⟩ := dice_of_answerRoll inv settings q s
    rw [← hafter] at htable hshared
    refine ⟨fun huses => ?_, fun huses => ?_⟩
    · have hcast : cast inv settings q s = rollTable q s := if_pos huses
      have hused : capOf inv settings s = s.table.limit := if_pos huses
      rw [hused] at hcap
      rw [htable, hshared, hcast, show bound = 2 * settings.maxPool + s.table.limit from
        congrArg (2 * settings.maxPool + ·) hused]
      exact ⟨Ruleset.rollsWithin_roll hlimit hpool hcap, rfl⟩
    · have hcast : cast inv settings q s
          = rollShared settings.diceSeed settings.maxExplosions q s := if_neg (by simp [huses])
      have hused : capOf inv settings s = (sharedRules settings s).limit := if_neg (by simp [huses])
      rw [hused] at hcap
      rw [htable, hshared, hcast, show bound = 2 * settings.maxPool + (sharedRules settings s).limit
        from congrArg (2 * settings.maxPool + ·) hused]
      exact ⟨rfl, ((sharedRules settings s).roll q).2,
        Ruleset.rollsWithin_roll hlimit hpool hcap, rfl⟩

/-- Dice that show ones first and then tens without end. -/
structure Streak where
  /-- How many ones are left. -/
  ones : Nat

instance : Source Streak where
  draw
    | ⟨0⟩ => (.ok (.pips (.number 10)), ⟨0⟩)
    | ⟨n + 1⟩ => (.ok (.pips (.number 1)), ⟨n⟩)

/-- Two failed dice under the rote quality, and tens from then on: with three explosions allowed, seven
faces are drawn before the roll has run away, and there is no other that could be. -/
theorem roll_draws_within_tens_without_end :
    let s : Session Streak := { table := { source := ⟨2⟩, limit := 3 } }
    let settings : Settings := { maxPool := 2 }
    let inv : Invocation := { name := "roll", userId := "u1", settings := some settings, known := [] }
    let options : RollOptions := { pool := "2 rote" }
    let run := (roll inv options).runOn s
    ((settingsOf inv).runOn s).1 = .ok settings ∧ 1 ≤ settings.maxPool ∧ 0 ≤ capOf inv settings s ∧
      run.1 = .error (.roll (.runaway 3)) ∧ run.2.table.lastDraws.length = (7 : Int) ∧
      s.table.RollsWithin { poolSize := 2, rote := true } 7 run.2.table := by
  intro s settings inv options run
  have hsettings : ((settingsOf inv).runOn s).1 = .ok settings := rfl
  have hrequest : requestOf 2 options.text.toList = .ok { poolSize := 2, rote := true } := by
    decide +kernel
  have hrun : run = (answerRoll inv settings { poolSize := 2, rote := true }).runOn s := by
    change (roll inv options).runOn s = _
    rw [runOn_roll hsettings, hrequest]
    rfl
  have hcast : (cast inv settings { poolSize := 2, rote := true } s).1 = .error (.runaway 3) := by
    decide +kernel
  obtain ⟨-, haccepted⟩ :=
    @roll_draws_within _ _ inv options settings s hsettings (by decide) (by decide)
  have hwithin := ((haccepted _ hrequest).1 rfl).1
  refine ⟨hsettings, by decide, by decide, ?_, ?_, hwithin⟩
  · rw [hrun, runOn_answerRoll_of_error (Prod.ext hcast rfl)]
  · rw [hrun, (dice_of_answerRoll _ _ _ _).1]
    decide +kernel

end Bot

end DicePool
