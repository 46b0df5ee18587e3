import DicePool.Proofs.Bot.Running

/-!
# Proofs/Bot/Askers — the same roll for different askers

A roll with the dice on the table depends on the settings, on its options and on those dice. Who asks
is only named: in the journal, and at the front of a line that is told to all. So a roll has one
effect, which does for every asker and every session with the same dice: main statement
`exists_effect_roll`.
-/

namespace DicePool

/-! ## Who is named in a line -/

theorem chanceLine_eq_append (who : String) (isBotch isSuccess : Bool) (dice : List String) :
    chanceLine who isBotch isSuccess dice = who ++ chanceLine "" isBotch isSuccess dice := by
  simp [chanceLine, toString, String.append_assoc]

theorem poolLine_eq_append (who pool : String) (modifiers : List String) (successes : String)
    (dice : List String) (isExceptional : Bool) :
    poolLine who pool modifiers successes dice isExceptional
      = who ++ poolLine "" pool modifiers successes dice isExceptional := by
  simp [poolLine, toString, String.append_assoc]

/-- **Whoever is named stands at the front of the line**, and the rest is the same for anybody. -/
theorem Result.exists_render_append (r : Result) (q : Option Request) (label : Option String) :
    (∃ e, ∀ mention, r.render q label mention = .error e) ∨
      ∃ rest, ∀ mention,
        r.render q label mention = .ok ((mention.filter (· ≠ "")).getD anybody ++ rest) := by
  cases hdice : r.dice.mapM Die.text with
  | error e => exact .inl ⟨e, fun mention => by rw [render, hdice]; rfl⟩
  | ok dice =>
    cases hchance : r.isChance with
    | true =>
      refine .inr ⟨chanceLine "" r.isBotch r.isSuccess dice, fun mention => ?_⟩
      rw [render, hdice, hchance, ← chanceLine_eq_append]
      rfl
    | false =>
      cases hpool : r.poolText q label with
      | error e => exact .inl ⟨e, fun mention => by rw [render, hdice, hchance, hpool]; rfl⟩
      | ok pool =>
        cases hsuccesses : Numeral.write r.successes with
        | error e =>
          exact .inl ⟨e, fun mention => by rw [render, hdice, hchance, hpool, hsuccesses]; rfl⟩
        | ok successes =>
          refine .inr ⟨poolLine "" pool ((q.map Request.describe).getD [])
            (successWords successes (r.successes = 1)) dice r.isExceptional, fun mention => ?_⟩
          rw [render, hdice, hchance, hpool, hsuccesses, ← poolLine_eq_append]
          rfl

/-! ## Counting -/

namespace Metrics

/-- **Counting adds to a counter as often as it is named.** -/
theorem get_foldl_increment (names : List String) (m : Metrics) (name : String) :
    (names.foldl increment m).get name = m.get name + names.count name := by
  induction names generalizing m with
  | nil => simp
  | cons other names ih =>
    rw [List.foldl_cons, ih, get_increment, List.count_cons]
    by_cases h : other = name
    · simp [h]
      omega
    · simp [h, Ne.symm h]

theorem incrementIf_eq_foldl (m : Metrics) (condition : Bool) (name : String) :
    m.incrementIf condition name = (if condition then [name] else []).foldl increment m := by
  cases condition <;> rfl

end Metrics

namespace Bot

open BotM

/-- The counters that a roll adds to. -/
def tallied (r : Result) : List String :=
  ["roll.performed"] ++ (if r.isChance then ["roll.chance"] else [])
    ++ (if r.isBotch then ["roll.botch"] else [])
    ++ if r.isExceptional then ["roll.exceptional"] else []

theorem tally_eq_foldl (r : Result) (m : Metrics) : tally r m = (tallied r).foldl .increment m := by
  simp only [tally, tallied, Metrics.incrementIf_eq_foldl, List.foldl_append, List.foldl_cons,
    List.foldl_nil]

/-! ## Effects -/

/-- How an asker is addressed. -/
def addressee (userId : String) : String := (mention userId).getD anybody

theorem getD_filter_mention (userId : String) :
    ((mention userId).filter (· ≠ "")).getD anybody = addressee userId := by
  unfold addressee mention
  split
  · rfl
  · simp [Option.filter]

/-- What comes of a roll. -/
inductive Upshot where
  /-- It fails. -/
  | fault (e : Fault)
  /-- The asker alone is told. -/
  | toAsker (content : String)
  /-- All are told who asks, and then the rest. -/
  | toAll (rest : String)

/-- What is answered if the asker is addressed in some way. -/
def Upshot.reply (who : String) : Upshot → Except Fault Reply
  | .fault e => .error e
  | .toAsker content => .ok { content, ephemeral := true }
  | .toAll rest => .ok { content := who ++ rest }

/-- What a roll with the dice on the table does, whoever asks. -/
structure Effect (σ : Type) where
  /-- What comes of it. -/
  upshot : Upshot
  /-- The counters that it adds to. -/
  counted : List String
  /-- The dice afterwards. -/
  table : Ruleset σ

variable {σ : Type}

/-- The session afterwards, up to the journal. -/
def Effect.after (e : Effect σ) (s : Session σ) (journal : Array Event) : Session σ :=
  { s with
    table := e.table
    metrics := e.counted.foldl .increment s.metrics
    journal }

/-- A session in which a roll is counted is one after an effect. -/
theorem counted_eq_after (q : Request) (r : Result) (upshot : Upshot) (rules : Ruleset σ)
    (s : Session σ) : counted q r { s with table := rules }
      = (⟨upshot, tallied r, rules⟩ : Effect σ).after s
        (s.journal ++ resolveJournal q.record (.ok r)) := by
  rw [counted, tally_eq_foldl]
  rfl

variable [Source σ]

theorem cast_of_usesTable {inv : Invocation} (h : inv.usesTable) (settings : Settings) (q : Request)
    (s : Session σ) :
    cast inv settings q s = ((s.table.roll q).1, { s with table := (s.table.roll q).2 }) := by
  rw [cast, if_pos h]
  rfl

/-- Casting the dice on the table and telling of them has one effect. -/
theorem exists_effect_answerRoll (settings : Settings) (q : Request) (rules : Ruleset σ) :
    ∃ e : Effect σ, ∀ (inv : Invocation) (s : Session σ), inv.usesTable → s.table = rules →
      ∃ journal, (answerRoll inv settings q).runOn s
        = (e.upshot.reply (addressee inv.userId), e.after s journal) := by
  rcases hroll : rules.roll q with ⟨outcome, rules'⟩
  have hcast {inv : Invocation} {s : Session σ} (htable : inv.usesTable) (hrules : s.table = rules) :
      cast inv settings q s = (outcome, { s with table := rules' }) := by
    rw [cast_of_usesTable htable, hrules, hroll]
  cases outcome with
  | error e =>
    exact ⟨⟨.fault (.roll e), [], rules'⟩, fun inv s htable hrules =>
      ⟨_, runOn_answerRoll_of_error (hcast htable hrules)⟩⟩
  | ok r =>
    cases hdigest : r.digest (some q) with
    | error e =>
      refine ⟨⟨.fault (.outOfRange e), tallied r, rules'⟩, fun inv s htable hrules => ?_⟩
      rw [runOn_answerRoll (hcast htable hrules), hdigest,
        counted_eq_after q r (.fault (.outOfRange e))]
      exact ⟨_, rfl⟩
    | ok digest =>
      rcases r.exists_render_append (some q) none with ⟨e, hrender⟩ | ⟨rest, hrender⟩
      · refine ⟨⟨.fault (.numeral e), tallied r, rules'⟩, fun inv s htable hrules => ?_⟩
        rw [runOn_answerRoll (hcast htable hrules), hdigest, hrender,
          counted_eq_after q r (.fault (.numeral e))]
        exact ⟨_, rfl⟩
      · refine ⟨⟨.toAll rest, tallied r, rules'⟩, fun inv s htable hrules => ?_⟩
        rw [runOn_answerRoll (hcast htable hrules), hdigest, hrender, getD_filter_mention,
          counted_eq_after q r (.toAll rest)]
        exact ⟨_, rfl⟩

/-- Whoever rolls with these settings, options and dice, this is what it does. -/
def Effect.IsOf (e : Effect σ) (settings : Settings) (options : RollOptions) (rules : Ruleset σ) :
    Prop :=
  ∀ (inv : Invocation) (s : Session σ), inv.settings = some settings → inv.usesTable →
    s.table = rules → ∃ journal, (roll inv options).runOn s
      = (e.upshot.reply (addressee inv.userId), e.after s journal)

/-- **A roll with the dice on the table has one effect**, for every asker and in every session. -/
theorem exists_effect_roll (settings : Settings) (options : RollOptions) (rules : Ruleset σ) :
    ∃ e : Effect σ, e.IsOf settings options rules := by
  rcases hrequest : Pool.requestOf settings.maxPool options.text.toList with (e | e) | q
  · refine ⟨⟨.toAsker ("❌ " ++ e.message), ["roll.parse_error"], rules⟩, fun inv s h _ hrules => ?_⟩
    rw [runOn_roll (settingsOf_of_some h s), hrequest]
    exact ⟨_, hrules ▸ runOn_refuse inv options.text e s⟩
  · refine ⟨⟨.fault (.numeral e), [], rules⟩, fun inv s h _ hrules => ?_⟩
    rw [runOn_roll (settingsOf_of_some h s), hrequest]
    exact ⟨s.journal, hrules ▸ rfl⟩
  · obtain ⟨e, he⟩ := exists_effect_answerRoll settings (q.withModifiers options.toModifiers) rules
    refine ⟨e, fun inv s h htable hrules => ?_⟩
    rw [runOn_roll (settingsOf_of_some h s), hrequest]
    exact he inv s htable hrules

end Bot

end DicePool
