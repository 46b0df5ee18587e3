import DicePool.Proofs.Bot.Running
import DicePool.Proofs.Pool.Refusal
import DicePool.Proofs.Roll.Replay
import DicePool.Proofs.Roll.Telling

/-!
# Proofs/Bot/Answers — what the command that rolls answers

A text that breaks a rule of the notation is answered to the asker alone, and a roll is answered to
all. Both have a gap, and the two main statements say exactly how wide it is:
`roll_refuses_unless_outgrown` for texts, where a number may be too long to be read or written, and
`roll_answers_unless_untellable` for rolls, where the dice have been cast and counted before it shows
that the pool is too low for a fingerprint.
-/

namespace DicePool.Bot

open BotM Pool

variable {σ : Type} [Source σ]

/-! ## Texts -/

/-- **A text makes a request, or is refused by a rule of the notation, unless it outgrows the numbers
that can be read and written.** What is refused is answered to the asker alone, whatever else is asked
for; what outgrows them fails before anything is done. -/
theorem roll_refuses_unless_outgrown {limit : Int} (hlimit : 1 ≤ limit) (text : List Char) :
    (((∃ q, requestOf limit text = .ok q) ∨ ∃ e, requestOf limit text = .error (.refused e)) ↔
      ∀ e, ¬Outgrows limit e text) ∧
    ∀ (inv : Invocation) (options : RollOptions) (settings : Settings) (s : Session σ),
      ((settingsOf inv).runOn s).1 = .ok settings → settings.maxPool = limit →
      options.text.toList = text →
        (∀ e, requestOf limit text = .error (.refused e) → ((roll inv options).runOn s).1 =
          .ok { content := "❌ " ++ e.message, ephemeral := true }) ∧
        ∀ e, Outgrows limit e text → (roll inv options).runOn s = (.error (.numeral e), s) := by
  have houtgrows (e : NumeralError) :
      requestOf limit text = .error (.numeral e) ↔ Outgrows limit e text :=
    requestOf_eq_numeral_iff (Int.le_trans Int.one_nonneg hlimit)
  refine ⟨?_, fun inv options settings s hsettings hmax htext => ⟨fun e he => ?_, fun e he => ?_⟩⟩
  · simp only [← houtgrows]
    rcases requestOf limit text with (e | e) | q <;> simp
  · rw [runOn_roll hsettings, hmax, htext, he]
    exact congrArg Prod.fst (runOn_refuse inv options.text e s)
  · rw [runOn_roll hsettings, hmax, htext, (houtgrows e).2 he]

/-- A sum that ends with a sign outgrows nothing. -/
theorem roll_refuses_unless_outgrown_trailing_sign :
    let s : Session Script := { table := { source := .ofList [] } }
    let inv : Invocation := { name := "roll", userId := "u1", settings := some {}, known := [] }
    (1 : Int) ≤ 100 ∧ (∀ e, ¬Outgrows 100 e "5 +".toList) ∧
      ((roll inv { pool := "5 +" }).runOn s).1 =
        .ok { content := "❌ Dice pool ends with an operator: `5 +`.", ephemeral := true } := by
  intro s inv
  have hlimit : (1 : Int) ≤ 100 := by decide
  have hrefused : requestOf 100 "5 +".toList = .error (.refused (.trailingSign "5 +".toList)) := by
    decide +kernel
  obtain ⟨hiff, hanswers⟩ := roll_refuses_unless_outgrown (σ := Script) hlimit "5 +".toList
  refine ⟨hlimit, hiff.1 (.inr ⟨_, hrefused⟩), ?_⟩
  rw [(hanswers inv { pool := "5 +" } {} s rfl rfl (by decide +kernel)).1 _ hrefused]
  decide +kernel

/-- **Two texts that are neither read nor refused**, under a limit of a hundred: 4301 nines, and the
sum of 4300 nines and one. -/
theorem not_refused_nines :
    requestOf 100 (List.replicate 4301 '9') = .error (.numeral (.tooManyDigits 4301)) ∧
      requestOf 100 (List.replicate 4300 '9' ++ ['+', '1']) =
        .error (.numeral .tooLargeToWrite) := by
  have hbound : 100 < Nat.pow 10 Numeral.maxDigits :=
    Numeral.lt_pow_maxDigits (k := 3) (by decide) (by decide)
  have hlimit : (100 : Int) < (Nat.pow 10 Numeral.maxDigits : Nat) := by omega
  exact ⟨(requestOf_eq_numeral_iff (by decide)).2 (outgrows_nines (by decide) 100),
    (requestOf_eq_numeral_iff (by decide)).2 (outgrows_nines_plus_one hlimit)⟩

/-! ## Rolls -/

/-- **Dice that are cast are a run** — on the table as well as shared. -/
theorem exists_runs_of_cast {inv : Invocation} {settings : Settings} {q : Request} {s s' : Session σ}
    {r : Result} (h : cast inv settings q s = (.ok r, s')) :
    ∃ limit dice, q.Runs limit [] dice ∧ (∀ d ∈ dice, 1 ≤ d.value.count ∧ d.value.count ≤ 10) ∧
      r = q.result dice := by
  have hfst := congrArg Prod.fst h
  unfold cast at hfst
  split at hfst
  next => exact ⟨_, Ruleset.exists_runs_of_roll hfst⟩
  next => exact ⟨_, Ruleset.exists_runs_of_roll hfst⟩

/-- **A roll is answered to all unless one of its numbers cannot be told**, and of fewer than `2 ^ 64`
dice only the pool can be such a number, if it lies below `-2 ^ 63`. In either case the dice have been
cast and the roll counted, and the network was left alone. -/
theorem roll_answers_unless_untellable {inv : Invocation} {options : RollOptions}
    {settings : Settings} {s s' : Session σ} {q₀ : Request} {r : Result}
    (hsettings : ((settingsOf inv).runOn s).1 = .ok settings)
    (hrequest : requestOf settings.maxPool options.text.toList = .ok q₀)
    (hcast : cast inv settings (q₀.withModifiers options.toModifiers) s = (.ok r, s')) :
    let q := q₀.withModifiers options.toModifiers
    let run := (roll inv options).runOn s
    let tellable := (r.numbers (some q)).all inAuditRange
    (tellable = true → ∃ line, r.render (some q) none (mention inv.userId) = .ok line ∧
      run.1 = .ok { content := line, ephemeral := false }) ∧
    (tellable = false → run.1 = .error (.outOfRange {})) ∧
    (r.dice.length < 0x10000000000000000 →
      (tellable = true ↔ -0x8000000000000000 ≤ q.poolSize)) ∧
    run.2.metrics.get "roll.performed" = s.metrics.get "roll.performed" + 1 ∧
    run.2.table = s'.table ∧ run.2.shared = s'.shared ∧ run.2.network = s.network := by
  intro q run tellable
  have hrun : run = (answerRoll inv settings q).runOn s := by
    change (roll inv options).runOn s = _
    rw [runOn_roll hsettings, hrequest]
  rw [runOn_answerRoll hcast] at hrun
  have hafter : run.2 = { counted q r s' with journal := run.2.journal } := by
    rw [hrun]
    cases r.digest (some q) <;> rfl
  refine ⟨fun htell => ?_, fun htell => ?_, fun hlen => ?_, ?_, ?_, ?_, ?_⟩
  · obtain ⟨line, hline⟩ := Result.exists_render htell (mention inv.userId)
    refine ⟨line, hline, ?_⟩
    rw [hrun, Result.digest, if_pos htell, hline]
    rfl
  · rw [hrun, Result.digest, if_neg (Bool.eq_false_iff.1 htell)]
  · obtain ⟨limit, dice, hruns, hvalid, rfl⟩ := exists_runs_of_cast hcast
    rw [Request.result_dice] at hlen
    exact hruns.all_inAuditRange_iff hvalid hlen
  · rw [hafter, session_of_cast hcast]
    exact get_tally_performed r s.metrics
  · rw [hafter]
    rfl
  · rw [hafter]
    rfl
  · rw [hafter, session_of_cast hcast]
    rfl

/-- The lowest pool that can be told, on a ten. -/
theorem roll_answers_unless_untellable_lowest_pool :
    let s : Session Script := { table := { source := .ofList [.pips (.number 10)] } }
    let inv : Invocation := { name := "roll", userId := "u1", settings := some {}, known := [] }
    let options : RollOptions := { pool := "-9223372036854775808" }
    let q : Request := { poolSize := -9223372036854775808 }
    let r : Result := { dice := [⟨.number 10, .initial, none⟩], successes := 1, isChance := true }
    ((settingsOf inv).runOn s).1 = .ok {} ∧ requestOf 100 options.text.toList = .ok q ∧
      (cast inv {} q s).1 = .ok r ∧
      ((roll inv options).runOn s).1 = .ok { content := "<@u1> rolled a chance die and succeeded: 10" } ∧
      ((roll inv options).runOn s).2.metrics.get "roll.performed" = 1 := by
  intro s inv options q r
  have hsettings : ((settingsOf inv).runOn s).1 = .ok {} := rfl
  have hrequest : requestOf 100 options.text.toList = .ok q := by decide +kernel
  have hcast : (cast inv {} q s).1 = .ok r := by decide +kernel
  obtain ⟨hanswer, -, htell, hcount, -⟩ :=
    roll_answers_unless_untellable hsettings hrequest (Prod.ext hcast rfl)
  obtain ⟨line, hline, hreply⟩ := hanswer ((htell (by decide)).2 (by decide))
  have hshown : r.render (some q) none (mention inv.userId)
      = .ok "<@u1> rolled a chance die and succeeded: 10" := by decide +kernel
  obtain rfl := Except.ok.inj (hshown.symm.trans hline)
  exact ⟨hsettings, hrequest, hcast, hreply, hcount⟩

/-- **A pool that is lower by one is rolled and never answered**: the request is accepted, the ten is
drawn and the roll counted, and then there is no fingerprint. -/
theorem roll_performed_and_not_answered :
    let s : Session Script := { table := { source := .ofList [.pips (.number 10)] } }
    let inv : Invocation := { name := "roll", userId := "u1", settings := some {}, known := [] }
    let options : RollOptions := { pool := "-9223372036854775809" }
    let q : Request := { poolSize := -9223372036854775809 }
    let r : Result := { dice := [⟨.number 10, .initial, none⟩], successes := 1, isChance := true }
    let run := (roll inv options).runOn s
    requestOf 100 options.text.toList = .ok q ∧ (cast inv {} q s).1 = .ok r ∧
      run.1 = .error (.outOfRange {}) ∧ run.2.metrics.get "roll.performed" = 1 ∧
      run.2.table.lastDraws = [.pips (.number 10)] := by
  intro s inv options q r run
  have hrequest : requestOf 100 options.text.toList = .ok q := by decide +kernel
  have hcast : (cast inv {} q s).1 = .ok r := by decide +kernel
  have hdigest : r.digest (some q) = .error {} := by decide +kernel
  have hsettings : ((settingsOf inv).runOn s).1 = .ok {} := rfl
  have hrun : run = (.error (.outOfRange {}), counted q r (cast inv {} q s).2) := by
    change (roll inv options).runOn s = _
    rw [runOn_roll hsettings, hrequest]
    change (answerRoll inv {} q).runOn s = _
    rw [runOn_answerRoll (Prod.ext hcast rfl), hdigest]
    rfl
  rw [hrun]
  exact ⟨hrequest, hcast, rfl, get_tally_performed r {}, rfl⟩

end DicePool.Bot
