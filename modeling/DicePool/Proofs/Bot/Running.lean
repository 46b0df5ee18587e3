import DicePool.Bot.Roll
import DicePool.Proofs.Metrics.Flat

/-!
# Proofs/Bot/Running — how a command ends, and what it leaves behind

A command is run from a session (`BotM.runOn`) and ends with its outcome and the session afterwards.
Here each step of the command that rolls is run once: the settings are found or not, a text is
refused (`Bot.runOn_refuse`), or dice are cast (`Bot.cast`), counted and answered
(`Bot.runOn_answerRoll`).
-/

namespace DicePool

variable {σ α β : Type}

/-! ## Commands -/

namespace BotM

/-- How a command ends from a session, and the session afterwards. -/
def runOn (x : BotM σ α) (s : Session σ) : Except Fault α × Session σ := x.run.run s

@[simp] theorem runOn_pure (a : α) (s : Session σ) : (pure a : BotM σ α).runOn s = (.ok a, s) := rfl

@[simp] theorem runOn_throw (e : Fault) (s : Session σ) :
    (throw e : BotM σ α).runOn s = (.error e, s) := rfl

/-- **What follows a fault is not run.** -/
theorem runOn_bind (x : BotM σ α) (f : α → BotM σ β) (s : Session σ) :
    (x >>= f).runOn s = match x.runOn s with
      | (.ok a, s') => (f a).runOn s'
      | (.error e, s') => (.error e, s') := by
  change ((x.run >>= ExceptT.bindCont f) : StateM (Session σ) _).run s = _
  rw [StateT.run_bind]
  rcases h : x.runOn s with ⟨_ | a, s'⟩ <;>
    · rw [show x.run.run s = _ from h]
      rfl

theorem runOn_bind_of_ok {x : BotM σ α} {f : α → BotM σ β} {s s' : Session σ} {a : α}
    (h : x.runOn s = (.ok a, s')) : (x >>= f).runOn s = (f a).runOn s' := by
  rw [runOn_bind, h]

@[simp] theorem runOn_get (s : Session σ) : (get : BotM σ (Session σ)).runOn s = (.ok s, s) := rfl

@[simp] theorem runOn_report (e : Event) (s : Session σ) :
    (report e).runOn s = (.ok (), { s with journal := s.journal.push e }) := rfl

@[simp] theorem runOn_reportAll (l : Journal) (s : Session σ) :
    (reportAll l).runOn s = (.ok (), { s with journal := s.journal ++ l }) := rfl

@[simp] theorem runOn_count (name : String) (s : Session σ) :
    (count name).runOn s = (.ok (), { s with metrics := s.metrics.increment name }) := rfl

@[simp] theorem runOn_countIf (condition : Bool) (name : String) (s : Session σ) :
    (countIf condition name).runOn s
      = (.ok (), { s with metrics := s.metrics.incrementIf condition name }) := by
  cases condition <;> rfl

@[simp] theorem runOn_measure (name : String) (n : Int) (s : Session σ) :
    (measure name n).runOn s = (.ok (), { s with metrics := s.metrics.observe name n }) := rfl

@[simp] theorem runOn_exchange (r : WebRequest) (s : Session σ) :
    (exchange r).runOn s
      = (.ok (s.network.send r).1, { s with network := (s.network.send r).2 }) := rfl

/-- **Whoever asks for the outcome of a command does not fail with it.** -/
@[simp] theorem runOn_outcome (x : BotM σ α) (s : Session σ) :
    (outcome x).runOn s = (.ok (x.runOn s).1, (x.runOn s).2) := rfl

end BotM

/-! ## The command that rolls -/

namespace Bot

open BotM

/-- Finding the settings changes nothing. -/
theorem runOn_settingsOf_snd (inv : Invocation) (s : Session σ) :
    ((settingsOf inv).runOn s).2 = s := by
  unfold settingsOf
  cases inv.settings with
  | some settings => rw [runOn_pure]
  | none =>
    dsimp only
    rw [runOn_bind_of_ok (runOn_get s)]
    cases Settings.load [] s.around <;> simp

/-- The settings of an invocation are the ones that are found. -/
theorem settingsOf_of_some {inv : Invocation} {settings : Settings}
    (h : inv.settings = some settings) (s : Session σ) :
    ((settingsOf inv).runOn s).1 = .ok settings := by
  rw [settingsOf, h]
  rfl

/-- Without settings of its own, an invocation has those that are found around it. -/
theorem settingsOf_of_none {inv : Invocation} (h : inv.settings = none) (s : Session σ) :
    ((settingsOf inv).runOn s).1 = (Settings.load [] s.around).mapError .settings := by
  rw [settingsOf, h]
  dsimp only
  rw [runOn_bind_of_ok (runOn_get s)]
  cases Settings.load [] s.around <;> rfl

/-- **A text that is refused is answered to the asker alone.** -/
theorem runOn_refuse (inv : Invocation) (text : String) (e : Pool.TextError) (s : Session σ) :
    (refuse inv text e).runOn s = (.ok { content := "❌ " ++ e.message, ephemeral := true },
      { s with
        metrics := s.metrics.increment "roll.parse_error"
        journal := s.journal.push (.info "roll.parse_error" [("text", .str text),
          ("error", .str e.message), ("user_id", .str inv.userId)]) }) := rfl

variable [Source σ]

/-- Casts the dice that an invocation uses. -/
def cast (inv : Invocation) (settings : Settings) (q : Request) (s : Session σ) :
    Except RollError Result × Session σ :=
  if inv.usesTable then rollTable q s
  else rollShared settings.diceSeed settings.maxExplosions q s

/-- **Casting dice moves them, and nothing else.** -/
theorem session_of_cast {inv : Invocation} {settings : Settings} {q : Request} {s s' : Session σ}
    {outcome : Except RollError Result} (h : cast inv settings q s = (outcome, s')) :
    s' = { s with table := s'.table, shared := s'.shared } := by
  obtain rfl : (cast inv settings q s).2 = s' := congrArg Prod.snd h
  unfold cast
  split <;> rfl

/-- The outcome of the cast is reported, and passed on. -/
theorem runOn_rollDice (inv : Invocation) (settings : Settings) (q : Request) (s : Session σ) :
    (rollDice inv settings q).runOn s =
      ((cast inv settings q s).1.mapError .roll,
        { (cast inv settings q s).2 with
          journal := (cast inv settings q s).2.journal
            ++ resolveJournal q.record (cast inv settings q s).1 }) := by
  have hcast : (modifyGet (cast inv settings q) : BotM σ _).runOn s
      = (.ok (cast inv settings q s).1, (cast inv settings q s).2) := rfl
  change (modifyGet (cast inv settings q) >>= fun outcome =>
    reportAll (resolveJournal q.record outcome) >>= fun _ => _ : BotM σ Result).runOn s = _
  rw [runOn_bind_of_ok hcast, runOn_bind_of_ok (runOn_reportAll _ _)]
  cases (cast inv settings q s).1 <;> rfl

/-- What is counted of a roll. -/
def tally (r : Result) (m : Metrics) : Metrics :=
  (((m.increment "roll.performed").incrementIf r.isChance "roll.chance").incrementIf r.isBotch
    "roll.botch").incrementIf r.isExceptional "roll.exceptional"

theorem get_tally_performed (r : Result) (m : Metrics) :
    (tally r m).get "roll.performed" = m.get "roll.performed" + 1 := by
  simp [tally]

/-- The session once a roll is counted. -/
def counted (q : Request) (r : Result) (s : Session σ) : Session σ :=
  { s with
    metrics := tally r s.metrics
    journal := s.journal ++ resolveJournal q.record (.ok r) }

/-- **A roll is counted before it is told**: it fails after that if it cannot be told, and is
answered to all if it can. -/
theorem runOn_answerRoll {inv : Invocation} {settings : Settings} {q : Request}
    {s s' : Session σ} {r : Result} (h : cast inv settings q s = (.ok r, s')) :
    (answerRoll inv settings q).runOn s = match r.digest (some q) with
      | .error e => (.error (.outOfRange e), counted q r s')
      | .ok digest =>
        (((r.render (some q) none (mention inv.userId)).mapError .numeral).map fun line =>
          { content := line },
        { counted q r s' with
          journal := (counted q r s').journal.push (rollEvent inv q r digest) }) := by
  have hroll : (rollDice inv settings q).runOn s
      = (.ok r, { s' with journal := s'.journal ++ resolveJournal q.record (.ok r) }) := by
    rw [runOn_rollDice, h]
    rfl
  unfold answerRoll
  rw [runOn_bind_of_ok hroll, runOn_bind_of_ok (runOn_count _ _),
    runOn_bind_of_ok (runOn_countIf _ _ _), runOn_bind_of_ok (runOn_countIf _ _ _),
    runOn_bind_of_ok (runOn_countIf _ _ _)]
  cases r.digest (some q) with
  | error e => exact runOn_throw _ _
  | ok digest =>
    dsimp only
    rw [runOn_bind_of_ok (runOn_report _ _)]
    cases r.render (some q) none (mention inv.userId) with
    | error e => exact runOn_throw _ _
    | ok line => exact runOn_pure _ _

/-- **A roll that fails is not counted.** -/
theorem runOn_answerRoll_of_error {inv : Invocation} {settings : Settings} {q : Request}
    {s s' : Session σ} {e : RollError} (h : cast inv settings q s = (.error e, s')) :
    (answerRoll inv settings q).runOn s
      = (.error (.roll e), { s' with journal := s'.journal ++ resolveJournal q.record (.error e) }) := by
  unfold answerRoll
  rw [runOn_bind, runOn_rollDice, h]
  rfl

/-- The command that rolls does what the text of the roll asks for. -/
theorem runOn_roll {inv : Invocation} {options : RollOptions} {settings : Settings}
    {s : Session σ} (h : ((settingsOf inv).runOn s).1 = .ok settings) :
    (roll inv options).runOn s = match Pool.requestOf settings.maxPool options.text.toList with
      | .error (.refused e) => (refuse inv options.text e).runOn s
      | .error (.numeral e) => (.error (.numeral e), s)
      | .ok q => (answerRoll inv settings (q.withModifiers options.toModifiers)).runOn s := by
  have hsettings : (settingsOf inv).runOn s = (.ok settings, s) :=
    Prod.ext h (runOn_settingsOf_snd inv s)
  unfold roll
  rw [runOn_bind_of_ok hsettings]
  rcases Pool.requestOf settings.maxPool options.text.toList with (_ | _) | _ <;> rfl

end Bot

end DicePool
