import DicePool.Proofs.Discord.Reach
import DicePool.Proofs.Metrics.Totals

/-!
# Proofs/Discord/Bracket — a command runs between its reports

A command that is found, with options that it accepts, is run between the report of its start and the
report of its end, and measured in between, however it ends: main statement `dispatch_brackets_commands`.
That is so for handlers of any kind, which may do whatever they like with the session; what the dispatch
adds to it is in `Brackets`.

The commands that there are do none of that themselves: they report events of their own, and measure
nothing (`Session.Undelivered`), and so does the delivery of their replies (`Session.Unbracketed`). So
all in all each of them is announced, concluded and measured just once (`BracketsOnce`). What is not run
is not measured.
-/

namespace DicePool

variable {σ α β : Type}

/-- The events of a bracket. -/
def Discord.bracketEvents : List String := ["command.initiated", "command.error", "command.completed"]

/-- Between two sessions events were reported that are none of a bracket, nothing was measured, and
nothing was counted under a name that passes for something else. -/
structure Session.Unbracketed (s s' : Session σ) : Prop where
  journal : ∃ own : Journal, (∀ e ∈ own, e.name ∉ Discord.bracketEvents)
    ∧ s'.journal.toList = s.journal.toList ++ own
  histograms : s'.metrics.histograms = s.metrics.histograms
  legible : s.metrics.Legible → s'.metrics.Legible

/-- Nothing was sent either. -/
structure Session.Undelivered (s s' : Session σ) : Prop extends s.Unbracketed s' where
  network : s'.network = s.network

namespace Session

variable {s s' s'' : Session σ}

theorem Unbracketed.trans (h : s.Unbracketed s') (h' : s'.Unbracketed s'') : s.Unbracketed s'' where
  journal := by
    obtain ⟨own, hown, hjournal⟩ := h.journal
    obtain ⟨own', hown', hjournal'⟩ := h'.journal
    exact ⟨own ++ own', List.forall_mem_append.2 ⟨hown, hown'⟩,
      by rw [hjournal', hjournal, List.append_assoc]⟩
  histograms := h'.histograms.trans h.histograms
  legible := h'.legible ∘ h.legible

namespace Undelivered

protected theorem refl (s : Session σ) : s.Undelivered s where
  journal := ⟨[], by simp⟩
  histograms := rfl
  legible := id
  network := rfl

theorem trans (h : s.Undelivered s') (h' : s'.Undelivered s'') : s.Undelivered s'' where
  toUnbracketed := h.toUnbracketed.trans h'.toUnbracketed
  network := h'.network.trans h.network

end Undelivered

end Session

namespace Discord

open BotM Metrics

/-! ## What commands do themselves -/

/-- **Commands that do their own business do so one after the other.** -/
theorem unbracketed_bind {x : BotM σ α} {f : α → BotM σ β} {s : Session σ}
    (hx : s.Unbracketed (x.runOn s).2) (hf : ∀ a s', Session.Unbracketed s' ((f a).runOn s').2) :
    s.Unbracketed ((x >>= f).runOn s).2 := by
  rw [runOn_bind]
  rcases hrun : x.runOn s with ⟨e | a, s'⟩ <;> rw [hrun] at hx
  · exact hx
  · exact hx.trans (hf a s')

theorem unbracketed_deliver (recipient : Recipient) (reply : Reply) (s : Session σ) :
    s.Unbracketed ((deliver recipient reply).runOn s).2 := by
  have houtcome : ∀ outcome, ∀ e ∈ outcomeEvents recipient.base outcome, e.name ∉ bracketEvents := by
    rintro (e | r)
    · cases e with
      | outage kind message =>
        exact List.forall_mem_singleton.2
          (show "discord.followup.network_error" ∉ bracketEvents by decide)
      | url | domain | relative | authorization | status => exact List.forall_mem_nil _
    · unfold outcomeEvents
      dsimp only
      split
      · exact List.forall_mem_singleton.2 (show "discord.followup.sent" ∉ bracketEvents by decide)
      · exact List.forall_mem_singleton.2
          (show "discord.followup.http_error" ∉ bracketEvents by decide)
  have hsend : (sendEvent recipient.base reply).name ∉ bracketEvents :=
    show "discord.followup.send" ∉ bracketEvents by decide
  rw [runOn_deliver]
  let outcome := (s.network.send (recipient.request reply)).1
  have hown : ∀ e ∈ sendEvent recipient.base reply :: outcomeEvents recipient.base outcome,
      e.name ∉ bracketEvents := List.forall_mem_cons.2 ⟨hsend, houtcome outcome⟩
  refine ⟨⟨_, hown, ?_⟩, rfl, id⟩
  rw [Array.toList_appendList, Array.toList_push, List.append_assoc]
  rfl

theorem histograms_tally (r : Result) (m : Metrics) : (Bot.tally r m).histograms = m.histograms := by
  simp only [Bot.tally, histograms_incrementIf, histograms_increment]

theorem undelivered_help (inv : Invocation) (topic : Option String) (s : Session σ) :
    s.Undelivered ((Bot.help inv topic).runOn s).2 := by
  have hcounted : s.Undelivered { s with metrics := s.metrics.increment "help.view" } :=
    ⟨⟨⟨[], by simp⟩, rfl, fun h => h.increment (by decide)⟩, rfl⟩
  unfold Bot.help
  rw [runOn_bind_of_ok (runOn_count _ _)]
  cases Bot.helpText inv.settings inv.known (Bot.topicOf topic) <;> exact hcounted

theorem name_notMem_of_mem_resolveJournal {q : Record.Request} {outcome : Except RollError Result} :
    ∀ e ∈ resolveJournal q outcome, e.name ∉ bracketEvents := by
  unfold resolveJournal
  refine List.forall_mem_cons.2 ⟨show "rules.pool.resolve.start" ∉ bracketEvents by decide, ?_⟩
  split
  · split
    · exact List.forall_mem_singleton.2
        (show "rules.pool.resolve.chance" ∉ bracketEvents by decide)
    · exact List.forall_mem_singleton.2
        (show "rules.pool.resolve.result" ∉ bracketEvents by decide)
  · exact List.forall_mem_singleton.2
      (show "rules.pool.resolve.runaway" ∉ bracketEvents by decide)
  · exact List.forall_mem_singleton.2
      (show "rules.pool.resolve.runaway" ∉ bracketEvents by decide)
  · exact List.forall_mem_nil _

variable [Source σ]

theorem undelivered_answerRoll (inv : Invocation) (settings : Settings) (q : Request)
    (s : Session σ) : s.Undelivered ((Bot.answerRoll inv settings q).runOn s).2 := by
  rcases hcast : Bot.cast inv settings q s with ⟨e | r, s'⟩
  · rw [Bot.runOn_answerRoll_of_error hcast, Bot.session_of_cast hcast]
    exact ⟨⟨⟨_, name_notMem_of_mem_resolveJournal, Array.toList_appendList⟩, rfl, id⟩, rfl⟩
  · have hcounted : s.Undelivered (Bot.counted q r s') := by
      rw [Bot.session_of_cast hcast]
      exact ⟨⟨⟨_, name_notMem_of_mem_resolveJournal, Array.toList_appendList⟩,
        histograms_tally r _, legible_tally r⟩, rfl⟩
    rw [Bot.runOn_answerRoll hcast]
    cases r.digest (some q) with
    | error e => exact hcounted
    | ok digest =>
      have hevent : (Bot.rollEvent inv q r digest).name ∉ bracketEvents :=
        show "roll.resolved" ∉ bracketEvents by decide
      exact hcounted.trans
        ⟨⟨⟨[_], List.forall_mem_singleton.2 hevent, Array.toList_push⟩, rfl, id⟩, rfl⟩

theorem undelivered_roll {inv : Invocation} {settings : Settings} (h : inv.settings = some settings)
    (options : RollOptions) (s : Session σ) :
    s.Undelivered ((Bot.roll inv options).runOn s).2 := by
  rw [Bot.runOn_roll (Bot.settingsOf_of_some h s)]
  rcases Pool.requestOf settings.maxPool options.text.toList with (e | e) | q
  · refine ⟨⟨⟨[_], List.forall_mem_singleton.2 ?_, Array.toList_push⟩, rfl,
      fun h => h.increment (by decide)⟩, rfl⟩
    exact show "roll.parse_error" ∉ bracketEvents by decide
  · exact .refl s
  · exact undelivered_answerRoll inv settings _ s

/-- **The commands that there are do their own business**, and leave their replies to others. -/
theorem undelivered_of_find? {name : String} {sub : Option String} {c : Command (Handler σ)}
    (hfind : Registry.find? Bot.commands name sub = some c) {inv : Invocation} {settings : Settings}
    (hsettings : inv.settings = some settings) (values : Named Json) (s : Session σ) :
    s.Undelivered ((c.handler inv values).runOn s).2 := by
  rcases name_of_find? hfind with ⟨-, rfl⟩ | ⟨-, rfl⟩
  · rw [handler_helpCommand]
    exact undelivered_help inv _ s
  · rw [handler_rollCommand]
    exact undelivered_roll hsettings _ s

/-! ## What the dispatch adds -/

omit [Source σ]

/-- An interaction calls a command: the command is found, and its form accepts the options. -/
structure Service.Calls (service : Service σ) (i : Interaction) (a : Asked)
    (c : Command (Handler σ)) (values : Named Json) : Prop where
  name : i.data.bind (·.name) = some a.name
  found : service.registry.find? a.name i.subcommand = some c
  options : ∃ options, i.options = .ok options ∧ a = i.asked a.name options
  accepted : c.form.check a.options = .ok values

/-- How a command ends, together with the delivery of its reply, once its start is reported. -/
def Service.handled (service : Service σ) (isLocal : Bool) (i : Interaction) (a : Asked)
    (c : Command (Handler σ)) (values : Named Json) (s : Session σ) :
    Except Fault Unit × Session σ :=
  (c.handler (service.invocation a) values >>= deliver (service.recipient isLocal i)).runOn
    { s with journal := s.journal.push a.initiated }

/-- A run is that of a command, with its end reported and its duration measured. -/
structure Brackets (a : Asked) (duration : Int) (handled run : Except Fault Unit × Session σ) :
    Prop where
  /-- The command fails with its own failure, or not at all. -/
  outcome : run.1 = handled.1
  /-- Its dice, and what it has sent, are left as they were. -/
  kept : run.2 = { handled.2 with metrics := run.2.metrics, journal := run.2.journal }
  /-- What it has counted is kept. -/
  counters : run.2.metrics.counters = handled.2.metrics.counters
  /-- Its duration is measured. -/
  measured : run.2.metrics = handled.2.metrics.observe a.histogram duration
  /-- Its end is reported. -/
  journal : run.2.journal = handled.2.journal ++ a.closing duration handled.1

/-- A run was announced and concluded just once, and just once measured. -/
structure BracketsOnce (a : Asked) (duration : Int) (s : Session σ)
    (run : Except Fault Unit × Session σ) : Prop where
  /-- Between the two reports stand none of their kind. -/
  journal : ∃ own : Journal, (∀ e ∈ own, e.name ∉ bracketEvents)
    ∧ run.2.journal.toList
      = s.journal.toList ++ a.initiated :: own ++ a.closing duration run.1
  /-- One observation more. -/
  count : run.2.metrics.value? (.count a.histogram)
    = some ((s.metrics.value? (.count a.histogram)).getD 0 + 1)
  /-- The duration that is reported more. -/
  sum : run.2.metrics.value? (.sum a.histogram)
    = some ((s.metrics.value? (.sum a.histogram)).getD 0 + duration)
  /-- Nothing else is measured. -/
  others : ∀ name, name ≠ a.histogram →
    run.2.metrics.histograms.get? name = s.metrics.histograms.get? name
  /-- The flat list tells that. -/
  told : s.metrics.Legible → run.2.metrics.Legible
    ∧ run.2.metrics.flatten.getD (Histogram.entryName a.histogram "count") 0
      = s.metrics.flatten.getD (Histogram.entryName a.histogram "count") 0 + 1
    ∧ run.2.metrics.flatten.getD (Histogram.entryName a.histogram "sum") 0
      = s.metrics.flatten.getD (Histogram.entryName a.histogram "sum") 0 + duration

variable {service : Service σ} {isLocal : Bool} {duration : Int} {i : Interaction} {a : Asked}
  {c : Command (Handler σ)} {values : Named Json} {s : Session σ}

/-- **A command that is called runs between its reports.** -/
theorem Service.Calls.runOn_dispatch (h : service.Calls i a c values) :
    (service.dispatch isLocal duration i).runOn s =
      let handled := service.handled isLocal i a c values s
      (handled.1, { handled.2 with
        metrics := handled.2.metrics.observe a.histogram duration
        journal := handled.2.journal ++ a.closing duration handled.1 }) := by
  obtain ⟨options, hoptions, ha⟩ := h.options
  rw [Service.dispatch_eq_serve h.name h.found hoptions, ← ha, service.serve_of_ok _ _ h.accepted,
    runOn_bracket_eq]
  rfl

/-- **What calls no command is not measured.** -/
theorem histograms_of_not_calls (h : ¬∃ a c values, service.Calls i a c values) :
    ((service.dispatch isLocal duration i).runOn s).2.metrics.histograms = s.metrics.histograms := by
  cases hname : i.data.bind (·.name) with
  | none =>
    simp only [Service.dispatch, hname]
    rfl
  | some name =>
    cases hfound : service.registry.find? name i.subcommand with
    | none =>
      simp only [Service.dispatch, hname, hfound]
      rfl
    | some c =>
      cases hoptions : i.options with
      | error e =>
        simp only [Service.dispatch, hname, hfound, hoptions]
        rfl
      | ok options =>
        rw [Service.dispatch_eq_serve hname hfound hoptions]
        cases hform : c.form.check (i.asked name options).options with
        | ok values => exact absurd ⟨_, c, values, hname, hfound, ⟨options, hoptions, rfl⟩, hform⟩ h
        | error problems => rw [metrics_serve_of_invalid _ _ _ _ hform, histograms_increment]

/-- **Measuring a duration counts once and adds the duration**, if nothing was measured before. -/
theorem bracketsOnce_of_unbracketed {handled : Except Fault Unit × Session σ}
    (h : Session.Unbracketed { s with journal := s.journal.push a.initiated } handled.2) :
    BracketsOnce a duration s (handled.1, { handled.2 with
      metrics := handled.2.metrics.observe a.histogram duration
      journal := handled.2.journal ++ a.closing duration handled.1 }) := by
  have hvalue : ∀ k : Key, (∀ name, k ≠ .counter name) →
      handled.2.metrics.value? k = s.metrics.value? k := by
    intro k hk
    have hsame := h.histograms
    cases k with
    | counter name => exact absurd rfl (hk name)
    | bucket | sum | count => simp only [value?, hsame]
  have hcount : (handled.2.metrics.observe a.histogram duration).value? (.count a.histogram)
      = some ((s.metrics.value? (.count a.histogram)).getD 0 + 1) := by
    rw [value?_observe, ← hvalue _ fun _ => Key.noConfusion]
    simp [Key.amount?]
  have hsum : (handled.2.metrics.observe a.histogram duration).value? (.sum a.histogram)
      = some ((s.metrics.value? (.sum a.histogram)).getD 0 + duration) := by
    rw [value?_observe, ← hvalue _ fun _ => Key.noConfusion]
    simp [Key.amount?]
  refine ⟨?_, hcount, hsum, fun name hname => ?_, fun hlegible => ?_⟩
  · obtain ⟨own, hown, hjournal⟩ := h.journal
    refine ⟨own, hown, ?_⟩
    simp only [Array.toList_appendList, hjournal, Array.toList_push, List.append_assoc,
      List.cons_append, List.nil_append]
  · obtain ⟨label, -, hobserve⟩ := handled.2.metrics.exists_observe a.histogram duration
    rw [hobserve, Named.get?_put, if_neg hname, h.histograms]
  · have hlegible' := (h.legible hlegible).observe a.histogram duration
    have hflat : ∀ {m : Metrics}, m.Legible → ∀ k : Key, (∀ name, k ≠ .counter name) →
        m.flatten.getD k.text 0 = (m.value? k).getD 0 := fun hm k hk => by
      rw [Named.getD, hm.get?_flatten_text fun name heq => absurd heq (hk name)]
    have hcounted := hflat hlegible' (.count a.histogram) fun _ => Key.noConfusion
    have hsummed := hflat hlegible' (.sum a.histogram) fun _ => Key.noConfusion
    rw [hcount, ← hflat hlegible _ fun _ => Key.noConfusion] at hcounted
    rw [hsum, ← hflat hlegible _ fun _ => Key.noConfusion] at hsummed
    exact ⟨hlegible', hcounted, hsummed⟩

/-- **Commands are run between their reports** — whatever they are, whatever they do, and however
they end, be it that the reply cannot be delivered. They fail as they would have failed, and what they
have counted and drawn is kept; and those that there are, are announced, concluded and measured just
once. What calls no command, because it is not there or its options are not accepted, is not measured. -/
theorem dispatch_brackets_commands [Source σ] (service : Service σ) (isLocal : Bool) (duration : Int)
    (i : Interaction) (s : Session σ) :
    let run := (service.dispatch isLocal duration i).runOn s
    (∀ a c values, service.Calls i a c values →
      Brackets a duration (service.handled isLocal i a c values s) run
        ∧ (service.registry = Bot.commands → BracketsOnce a duration s run))
      ∧ ((¬∃ a c values, service.Calls i a c values) →
        run.2.metrics.histograms = s.metrics.histograms) := by
  intro run
  refine ⟨fun a c values h => ?_, histograms_of_not_calls⟩
  have hrun : run = _ := h.runOn_dispatch
  rw [hrun]
  refine ⟨⟨rfl, rfl, rfl, rfl, rfl⟩, fun hcommands => bracketsOnce_of_unbracketed ?_⟩
  have hfound := h.found
  rw [hcommands] at hfound
  exact unbracketed_bind (undelivered_of_find? hfound rfl values _).toUnbracketed
    fun reply s' => unbracketed_deliver _ reply s'

/-- A chance die is rolled, and its answer reaches nobody. -/
theorem dispatch_brackets_commands_outage :
    let service : Service Script := .standard {}
    let i : Interaction := {
      id := "1", kind := 2, token := "t", applicationId := "a"
      data := some ⟨some "roll", some [[("name", .str "pool"), ("value", .str "chance")]]⟩
      guildId := none, channelId := none, member := none, user := none }
    let s : Session Script := {
      table := { source := .ofList [.pips (.number 1)] }
      network := { answers := [.outage .connect "down"] } }
    let a := i.asked "roll" [("pool", .str "chance")]
    let run := (service.dispatch false 3 i).runOn s
    ∃ values, service.Calls i a Bot.rollCommand values
      ∧ Brackets a 3 (service.handled false i a Bot.rollCommand values s) run
      ∧ BracketsOnce a 3 s run
      ∧ run.1 = .error (.delivery (.outage .connect "down"))
      ∧ run.2.metrics.get "roll.performed" = 1 := by
  intro service i s a run
  let values : Named Json := [("pool", .str "chance"), ("modifiers", .null),
    ("rote", .bool false), ("nine_again", .bool false), ("eight_again", .bool false),
    ("no_explode", .bool false)]
  have hform : RollOptions.form.check [("pool", .str "chance")] = .ok values := by
    simp [RollOptions.form, Form.check, Form.fields, Shape.checkFields, Shape.check,
      Named.get?_cons, values, checkText, both, inside, Except.mapError]
  have hcalls : service.Calls i a Bot.rollCommand values := ⟨rfl, rfl, ⟨_, rfl, rfl⟩, hform⟩
  obtain ⟨hbrackets, honce⟩ := (dispatch_brackets_commands service false 3 i s).1 _ _ _ hcalls
  have hhandled : (service.handled false i a Bot.rollCommand values s).1
      = .error (.delivery (.outage .connect "down")) := by decide +kernel
  have hperformed : (service.handled false i a Bot.rollCommand values s).2.metrics.get
      "roll.performed" = 1 := by decide +kernel
  refine ⟨values, hcalls, hbrackets, honce rfl, hbrackets.outcome.trans hhandled, ?_⟩
  rw [hbrackets.measured, get_observe, hperformed]

end Discord

end DicePool
