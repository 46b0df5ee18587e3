import DicePool.Bot.Commands
import DicePool.Discord.Dispatch
import DicePool.Proofs.Bot.Answers
import DicePool.Proofs.Metrics.Flat

/-!
# Proofs/Discord/Accounts — what is counted of a run of commands

Whatever an interaction asks for and however it ends, dispatching it does one of six things to the
metrics: a `Booking`. Which one it is depends on how far the command came (`exists_booking`). That the
counters of rolls agree with each other, and with the histogram of durations, is preserved by every
booking, so it holds after every run of commands: main statement `accounts_balance`.

Two facts from far apart meet in the bookings. Only chance dice are botched, and they are never
exceptional, which the dice decide; and every roll that was begun is measured, however it ends, which
is the bracket's work.
-/

namespace DicePool.Discord

open BotM

variable {σ : Type}

/-! ## Delivering and bracketing -/

/-- **A reply is sent once**, and the failure of its delivery is one of the command if the base says
so. -/
theorem runOn_deliver (recipient : Recipient) (reply : Reply) (s : Session σ) :
    (deliver recipient reply).runOn s =
      let sent := s.network.send (recipient.request reply)
      (match faultOf recipient.base sent.1 with
        | some e => .error e
        | none => .ok (),
      { s with
        network := sent.2
        journal := s.journal.push (sendEvent recipient.base reply)
          ++ outcomeEvents recipient.base sent.1 }) := by
  unfold deliver
  rw [runOn_bind_of_ok (runOn_report _ _), runOn_bind_of_ok (runOn_exchange _ _),
    runOn_bind_of_ok (runOn_reportAll _ _)]
  dsimp only
  cases faultOf recipient.base (s.network.send (recipient.request reply)).1 <;> rfl

/-- Deliveries are not counted. -/
theorem metrics_deliver (recipient : Recipient) (reply : Reply) (s : Session σ) :
    ((deliver recipient reply).runOn s).2.metrics = s.metrics := by
  rw [runOn_deliver]

theorem metrics_bind_deliver (recipient : Recipient) (x : BotM σ Reply) (s : Session σ) :
    ((x >>= deliver recipient).runOn s).2.metrics = (x.runOn s).2.metrics := by
  rw [runOn_bind]
  rcases x.runOn s with ⟨_ | reply, s'⟩
  · rfl
  · exact metrics_deliver recipient reply s'

theorem isOk_of_isOk_bind_deliver {recipient : Recipient} {x : BotM σ Reply} {s : Session σ}
    (h : ((x >>= deliver recipient).runOn s).1.isOk) : (x.runOn s).1.isOk := by
  rw [runOn_bind] at h
  generalize x.runOn s = run at h ⊢
  rcases run with ⟨_ | reply, s'⟩
  · exact h
  · rfl

/-- What is reported once a command has ended. -/
def Asked.closing (a : Asked) (duration : Int) : Except Fault Unit → Journal
  | .ok _ => [a.completed "success" duration]
  | .error _ => [a.failed, a.completed "error" duration]

/-- **A command between its reports does what it would have done without**, but for the reports and
the measurement of its duration. -/
theorem runOn_bracket_eq (a : Asked) (duration : Int) (run : BotM σ Unit) (s : Session σ) :
    (bracket a duration run).runOn s =
      let r := run.runOn { s with journal := s.journal.push a.initiated }
      (r.1, { r.2 with
        metrics := r.2.metrics.observe a.histogram duration
        journal := r.2.journal ++ a.closing duration r.1 }) := by
  unfold bracket
  rw [runOn_bind_of_ok (runOn_report _ _), runOn_bind_of_ok (runOn_outcome _ _)]
  rcases run.runOn { s with journal := s.journal.push a.initiated } with ⟨e | ⟨⟩, s'⟩ <;> rfl

/-- **A command between its reports does what it would have done without**, but for the journal and
the measurement of its duration. -/
theorem exists_runOn_bracket (a : Asked) (duration : Int) (run : BotM σ Unit) (s : Session σ) :
    let r := run.runOn { s with journal := s.journal.push a.initiated }
    ∃ journal, (bracket a duration run).runOn s
      = (r.1, { r.2 with metrics := r.2.metrics.observe a.histogram duration, journal }) :=
  ⟨_, runOn_bracket_eq a duration run s⟩

/-- **A command is measured however it ends**, and it ends as it would have without. -/
theorem runOn_bracket (a : Asked) (duration : Int) (run : BotM σ Unit) (s : Session σ) :
    ((bracket a duration run).runOn s).1
        = (run.runOn { s with journal := s.journal.push a.initiated }).1
      ∧ ((bracket a duration run).runOn s).2.metrics
        = (run.runOn { s with journal := s.journal.push a.initiated }).2.metrics.observe
            a.histogram duration := by
  obtain ⟨journal, hrun⟩ := exists_runOn_bracket a duration run s
  rw [hrun]
  exact ⟨rfl, rfl⟩

/-- What a handler is told of a command that was found. -/
def Service.invocation (service : Service σ) (a : Asked) : Invocation where
  name := a.name
  subcommand := a.subcommand
  userId := a.userId
  guildId := a.guildId
  settings := some service.settings
  known := service.registry.names

/-- A command whose options are accepted runs between its reports. -/
theorem Service.serve_of_ok (service : Service σ) (recipient : Recipient) (duration : Int) {a : Asked}
    {c : Command (Handler σ)} {values : Named Json} (hform : c.form.check a.options = .ok values) :
    service.serve recipient duration a c
      = bracket a duration (c.handler (service.invocation a) values >>= deliver recipient) := by
  rw [Service.serve, hform]
  rfl

/-- **Serving a command runs its handler once and measures it**: nothing else is counted, and if the
handler fails, so does the service. -/
theorem exists_runOn_serve (service : Service σ) (recipient : Recipient) (duration : Int) (a : Asked)
    {c : Command (Handler σ)} {values : Named Json} (hform : c.form.check a.options = .ok values)
    (s : Session σ) :
    ∃ s₀ : Session σ, s₀.metrics = s.metrics ∧
      let served := (service.serve recipient duration a c).runOn s
      let handled := (c.handler (service.invocation a) values).runOn s₀
      served.2.metrics = handled.2.metrics.observe a.histogram duration
        ∧ (served.1.isOk → handled.1.isOk) := by
  refine ⟨{ s with journal := s.journal.push a.initiated }, rfl, ?_⟩
  obtain ⟨houtcome, hmetrics⟩ := runOn_bracket a duration
    (c.handler (service.invocation a) values >>= deliver recipient) s
  dsimp only
  rw [service.serve_of_ok recipient duration hform, houtcome, hmetrics, metrics_bind_deliver]
  exact ⟨rfl, isOk_of_isOk_bind_deliver⟩

theorem metrics_serve_of_invalid (service : Service σ) (recipient : Recipient) (duration : Int)
    (a : Asked) {c : Command (Handler σ)} {problems : List Problem}
    (hform : c.form.check a.options = .error problems) (s : Session σ) :
    ((service.serve recipient duration a c).runOn s).2.metrics
      = s.metrics.increment "command.options_error" := by
  rw [Service.serve, hform]
  dsimp only
  rw [runOn_bind_of_ok (runOn_count _ _), metrics_deliver]

/-! ## The commands that there are -/

variable [Source σ]

/-- A key is the name itself, or has a colon in it. -/
theorem commandKey_eq_or_mem (name : String) (sub : Option String) :
    commandKey name sub = name ∨ ':' ∈ (commandKey name sub).toList := by
  rcases sub with _ | sub
  · exact .inl rfl
  · rw [commandKey]
    split
    next => exact .inl rfl
    next => exact .inr (by simp)

theorem get?_commands (key : String) :
    Named.get? (Bot.commands : Registry (Handler σ)) key
      = if key = "help" then some Bot.helpCommand
        else if key = "roll" then some Bot.rollCommand else none := by
  change Named.get? [("help", Bot.helpCommand), ("roll", Bot.rollCommand)] key = _
  rw [Named.get?_cons, Named.get?_cons, Named.get?_nil]

/-- **Two commands are found, each under its own name only**, whatever subcommand is asked for. -/
theorem name_of_find? {name : String} {sub : Option String} {c : Command (Handler σ)}
    (h : Registry.find? Bot.commands name sub = some c) :
    (name = "help" ∧ c = Bot.helpCommand) ∨ (name = "roll" ∧ c = Bot.rollCommand) := by
  have hget : ∀ {key : String}, Named.get? (Bot.commands : Registry (Handler σ)) key = some c →
      (key = "help" ∧ c = Bot.helpCommand) ∨ (key = "roll" ∧ c = Bot.rollCommand) := by
    intro key hkey
    rw [get?_commands] at hkey
    split at hkey
    next hhelp => exact .inl ⟨hhelp, (Option.some.inj hkey).symm⟩
    next =>
      split at hkey
      next hroll => exact .inr ⟨hroll, (Option.some.inj hkey).symm⟩
      next => cases hkey
  have hcases : Named.get? Bot.commands (commandKey name sub) = some c
      ∨ Named.get? Bot.commands name = some c := by
    rw [Registry.find?] at h
    cases hkey : Named.get? (Bot.commands : Registry (Handler σ)) (commandKey name sub) with
    | none => exact .inr (by rwa [hkey] at h)
    | some d => exact .inl (by rwa [hkey] at h)
  rcases hcases with hkey | hname
  · rcases commandKey_eq_or_mem name sub with heq | hcolon
    · exact hget (heq ▸ hkey)
    · rcases hget hkey with ⟨hhelp, -⟩ | ⟨hroll, -⟩
      · exact absurd (hhelp ▸ hcolon) (by decide)
      · exact absurd (hroll ▸ hcolon) (by decide)
  · exact hget hname

/-- **The command that rolls is found by its name**, whatever subcommand is asked for. -/
theorem find?_roll (sub : Option String) :
    Registry.find? (Bot.commands : Registry (Handler σ)) "roll" sub = some Bot.rollCommand := by
  have hname : Named.get? (Bot.commands : Registry (Handler σ)) "roll" = some Bot.rollCommand := rfl
  cases hfind : Registry.find? (Bot.commands : Registry (Handler σ)) "roll" sub with
  | none => simp [Registry.find?, hname] at hfind
  | some c =>
    rcases name_of_find? hfind with ⟨hhelp, -⟩ | ⟨-, rfl⟩
    · exact absurd hhelp (by decide)
    · rfl

/-! ## Bookings -/

/-- What a dispatch does to the metrics. -/
inductive Booking where
  /-- No command was run. -/
  | nothing
  /-- The options were not accepted. -/
  | invalid
  /-- The help was shown. -/
  | help
  /-- A roll failed before it had a result. -/
  | failed
  /-- The text of a roll was refused. -/
  | refused
  /-- A roll had a result. -/
  | rolled (r : Result)

namespace Booking

/-- The histogram of rolls. -/
def rollDuration : String := "command.roll.duration_ms"

/-- The metrics once a booking is made. -/
def post (duration : Int) (m : Metrics) : Booking → Metrics
  | .nothing => m
  | .invalid => m.increment "command.options_error"
  | .help => (m.increment "help.view").observe "command.help.duration_ms" duration
  | .failed => m.observe rollDuration duration
  | .refused => (m.increment "roll.parse_error").observe rollDuration duration
  | .rolled r => (Bot.tally r m).observe rollDuration duration

/-- Only chance dice are botched. -/
def Sound : Booking → Prop
  | .rolled r => r.isBotch → r.isChance
  | _ => True

end Booking

/-- **Of dice that were cast, only a chance die is botched.** -/
theorem isChance_of_cast {inv : Invocation} {settings : Settings} {q : Request} {s s' : Session σ}
    {r : Result} (h : Bot.cast inv settings q s = (.ok r, s')) (hbotch : r.isBotch) :
    r.isChance := by
  obtain ⟨limit, dice, -, -, rfl⟩ := Bot.exists_runs_of_cast h
  unfold Request.result at hbotch ⊢
  cases hc : q.isChance with
  | true => rw [if_pos rfl]
  | false => simp [hc] at hbotch

/-- The command that rolls fails, refuses its text, or counts a roll; and it only fails uncounted. -/
theorem exists_booking_roll {inv : Invocation} {settings : Settings}
    (hsettings : inv.settings = some settings) (options : RollOptions) (s : Session σ)
    (duration : Int) :
    ∃ b : Booking, b.Sound
      ∧ ((Bot.roll inv options).runOn s).2.metrics.observe Booking.rollDuration duration
        = b.post duration s.metrics
      ∧ (((Bot.roll inv options).runOn s).1.isOk → b ≠ .failed) := by
  rw [Bot.runOn_roll (Bot.settingsOf_of_some hsettings s)]
  rcases Pool.requestOf settings.maxPool options.text.toList with (e | e) | q
  · exact ⟨.refused, trivial, rfl, fun _ => Booking.noConfusion⟩
  · exact ⟨.failed, trivial, rfl, fun h => Bool.noConfusion h⟩
  · dsimp only
    generalize q.withModifiers options.toModifiers = q'
    rcases hcast : Bot.cast inv settings q' s with ⟨e | r, s'⟩
    · rw [Bot.runOn_answerRoll_of_error hcast, Bot.session_of_cast hcast]
      exact ⟨.failed, trivial, rfl, fun h => Bool.noConfusion h⟩
    · refine ⟨.rolled r, isChance_of_cast hcast, ?_, fun _ => Booking.noConfusion⟩
      · rw [Bot.runOn_answerRoll hcast, Bot.session_of_cast hcast]
        cases r.digest (some q') <;> rfl

omit [Source σ] in
/-- **Showing the help is counted.** -/
theorem metrics_help (inv : Invocation) (topic : Option String) (s : Session σ) :
    ((Bot.help inv topic).runOn s).2.metrics = s.metrics.increment "help.view" := by
  unfold Bot.help
  rw [runOn_bind_of_ok (runOn_count _ _)]
  cases Bot.helpText inv.settings inv.known (Bot.topicOf topic) <;> rfl

omit [Source σ] in
theorem handler_helpCommand (inv : Invocation) (values : Named Json) :
    (Bot.helpCommand : Command (Handler σ)).handler inv values
      = Bot.help inv ((values.get? "topic").bind Json.str?) := rfl

theorem handler_rollCommand (inv : Invocation) (values : Named Json) :
    (Bot.rollCommand : Command (Handler σ)).handler inv values
      = Bot.roll inv (.ofValues values) := rfl

/-- A service with the commands that there are. -/
def Service.standard (settings : Settings) : Service σ :=
  ⟨Bot.commands, settings⟩

/-- **Serving a command makes one booking**, and if a roll did not fail, neither does its booking say
so. -/
theorem exists_booking_serve (settings : Settings) (recipient : Recipient) (duration : Int)
    {a : Asked} {c : Command (Handler σ)}
    (hfind : Registry.find? Bot.commands a.name a.subcommand = some c) (s : Session σ) :
    let served := ((Service.standard settings).serve recipient duration a c).runOn s
    ∃ b : Booking, b.Sound ∧ served.2.metrics = b.post duration s.metrics
      ∧ ((a.name = "roll" → served.1.isOk) → b ≠ .failed) := by
  intro served
  cases hform : c.form.check a.options with
  | error problems =>
    exact ⟨.invalid, trivial, metrics_serve_of_invalid _ _ _ _ hform s,
      fun _ => Booking.noConfusion⟩
  | ok values =>
    obtain ⟨s₀, hs₀, hmetrics, hok⟩ :=
      exists_runOn_serve (Service.standard settings) recipient duration a hform s
    have hhistogram : ∀ {name : String}, a.name = name →
        a.histogram = "command." ++ name ++ ".duration_ms" := fun h => by rw [Asked.histogram, h]
    rcases name_of_find? hfind with ⟨hname, rfl⟩ | ⟨hname, rfl⟩
    · rw [handler_helpCommand, metrics_help, hs₀, hhistogram hname] at hmetrics
      exact ⟨.help, trivial, hmetrics, fun _ => Booking.noConfusion⟩
    · obtain ⟨b, hsound, hpost, hfailed⟩ := exists_booking_roll
        (show ((Service.standard settings : Service σ).invocation a).settings = some settings from rfl)
        (.ofValues values) s₀ duration
      rw [handler_rollCommand, hhistogram hname] at hmetrics
      exact ⟨b, hsound, hmetrics.trans (hs₀ ▸ hpost), fun h => hfailed (hok (h hname))⟩

/-! ## Runs of commands -/

/-- A dispatch to be made. -/
structure Errand where
  /-- Whether the request is local. -/
  isLocal : Bool
  /-- How many milliseconds the handler takes. -/
  duration : Int
  /-- What a user asks for. -/
  interaction : Interaction

/-- Whether the errand asks for the command that rolls. -/
def Errand.IsRoll (e : Errand) : Prop :=
  e.interaction.data.bind (·.name) = some "roll"

/-- Runs an errand. -/
def Service.run (service : Service σ) (e : Errand) (s : Session σ) :
    Except Fault Unit × Session σ :=
  (service.dispatch e.isLocal e.duration e.interaction).runOn s

/-- **An errand makes one booking.** -/
theorem exists_booking (settings : Settings) (e : Errand) (s : Session σ) :
    let run := (Service.standard settings).run e s
    ∃ b : Booking, b.Sound ∧ run.2.metrics = b.post e.duration s.metrics
      ∧ ((e.IsRoll → run.1.isOk) → b ≠ .failed) := by
  have hnothing : ∀ {out : Except Fault Unit × Session σ}, out.2.metrics = s.metrics →
      ∃ b : Booking, b.Sound ∧ out.2.metrics = b.post e.duration s.metrics
        ∧ ((e.IsRoll → out.1.isOk) → b ≠ .failed) :=
    fun h => ⟨.nothing, trivial, h, fun _ => Booking.noConfusion⟩
  unfold Service.run Service.dispatch
  split
  next => exact hnothing rfl
  next name hname =>
    dsimp only
    split
    next => exact hnothing rfl
    next c hfind =>
      split
      next => exact hnothing rfl
      next options _ =>
        obtain ⟨b, hsound, hmetrics, hfailed⟩ := exists_booking_serve settings
          ⟨.ofSettings settings e.isLocal, e.interaction.applicationId, e.interaction.token⟩
          e.duration (a := ⟨name, e.interaction.subcommand, options, e.interaction.userId,
            e.interaction.guildId⟩) hfind s
        refine ⟨b, hsound, hmetrics, fun h => hfailed fun hroll => h ?_⟩
        rw [Errand.IsRoll, hname]
        exact congrArg some hroll

/-! ## Balance -/

/-- What metrics say about rolls. -/
structure Account where
  /-- Rolls that had a result. -/
  performed : Int := 0
  /-- Texts that were refused. -/
  refused : Int := 0
  /-- Chance dice. -/
  chance : Int := 0
  /-- Chance dice that were botched. -/
  botch : Int := 0
  /-- Exceptional successes. -/
  exceptional : Int := 0
  /-- Rolls that were measured. -/
  measured : Int := 0
deriving DecidableEq, Repr

namespace Account

/-- The account of metrics. -/
def ofMetrics (m : Metrics) : Account where
  performed := m.get "roll.performed"
  refused := m.get "roll.parse_error"
  chance := m.get "roll.chance"
  botch := m.get "roll.botch"
  exceptional := m.get "roll.exceptional"
  measured := m.observed Booking.rollDuration

instance : Add Account where
  add a b := {
    performed := a.performed + b.performed
    refused := a.refused + b.refused
    chance := a.chance + b.chance
    botch := a.botch + b.botch
    exceptional := a.exceptional + b.exceptional
    measured := a.measured + b.measured }

theorem add_def (a b : Account) : a + b = {
    performed := a.performed + b.performed
    refused := a.refused + b.refused
    chance := a.chance + b.chance
    botch := a.botch + b.botch
    exceptional := a.exceptional + b.exceptional
    measured := a.measured + b.measured } := rfl

/-- The parts of an account agree with each other. -/
structure Balanced (a : Account) : Prop where
  botch_le : a.botch ≤ a.chance
  chance_le : a.chance + a.exceptional ≤ a.performed
  performed_le : a.performed + a.refused ≤ a.measured

/-- Every roll that was measured had a result or was refused. -/
def Settled (a : Account) : Prop :=
  a.performed + a.refused = a.measured

variable {a b : Account}

theorem add_assoc (a b c : Account) : a + b + c = a + (b + c) := by
  simp [add_def, Int.add_assoc]

/-- Nothing has been counted in fresh metrics. -/
theorem ofMetrics_empty_add (a : Account) : ofMetrics {} + a = a := by
  have hnothing : ofMetrics {} = {} := rfl
  rw [hnothing, add_def]
  simp

theorem Balanced.add (ha : a.Balanced) (hb : b.Balanced) : (a + b).Balanced where
  botch_le := Int.add_le_add ha.botch_le hb.botch_le
  chance_le := by
    have := ha.chance_le
    have := hb.chance_le
    simp only [add_def]
    omega
  performed_le := by
    have := ha.performed_le
    have := hb.performed_le
    simp only [add_def]
    omega

theorem Settled.add (ha : a.Settled) (hb : b.Settled) : (a + b).Settled := by
  simp only [Settled, add_def] at ha hb ⊢
  omega

end Account

/-- What a booking adds to the account. -/
def Booking.account : Booking → Account
  | .nothing => {}
  | .invalid => {}
  | .help => {}
  | .failed => { measured := 1 }
  | .refused => { refused := 1, measured := 1 }
  | .rolled r => {
      performed := 1
      chance := if r.isChance then 1 else 0
      botch := if r.isBotch then 1 else 0
      exceptional := if r.isExceptional then 1 else 0
      measured := 1 }

/-- **A booking is balanced in itself** — a chance die is never exceptional. -/
theorem Booking.Sound.balanced {b : Booking} (h : b.Sound) : b.account.Balanced := by
  cases b with
  | nothing | invalid | help | failed | refused => constructor <;> decide
  | rolled r =>
    have hbotch : r.isBotch → r.isChance := h
    have hexceptional : r.isExceptional = (!r.isChance && exceptionalAt ≤ r.successes) := rfl
    constructor <;> simp only [Booking.account] <;> grind

theorem Booking.settled {b : Booking} (h : b ≠ .failed) : b.account.Settled := by
  cases b with
  | failed => exact absurd rfl h
  | nothing | invalid | help | refused | rolled => rfl

/-- Counting a roll leaves the metrics legible. -/
theorem legible_tally (r : Result) {m : Metrics} (h : m.Legible) : (Bot.tally r m).Legible :=
  (((h.increment (by decide)).incrementIf _ (by decide)).incrementIf _ (by decide)).incrementIf _
    (by decide)

/-- **Every booking leaves the metrics legible.** -/
theorem Booking.legible_post (b : Booking) {m : Metrics} (h : m.Legible) (duration : Int) :
    (b.post duration m).Legible := by
  cases b with
  | nothing => exact h
  | invalid => exact h.increment (by decide)
  | help => exact (h.increment (by decide)).observe _ _
  | failed => exact h.observe _ _
  | refused => exact (h.increment (by decide)).observe _ _
  | rolled r => exact (legible_tally r h).observe _ _

/-- **Every booking adds to the account.** -/
theorem Booking.account_post (b : Booking) (m : Metrics) (duration : Int) :
    Account.ofMetrics (b.post duration m) = Account.ofMetrics m + b.account := by
  cases b with
  | nothing | invalid | failed | refused =>
    simp [Booking.post, Booking.account, Account.add_def, Account.ofMetrics]
  | help =>
    simp [Booking.post, Booking.account, Account.add_def, Account.ofMetrics, Booking.rollDuration]
  | rolled r =>
    simp [Booking.post, Booking.account, Account.add_def, Account.ofMetrics, Bot.tally]
    grind

/-! ## Whole runs -/

/-- Runs errands one after the other, and lists how they ended. -/
def Service.runAll (service : Service σ) :
    List Errand → Session σ → List (Except Fault Unit) × Session σ
  | [], s => ([], s)
  | e :: errands, s =>
    let (outcome, s') := service.run e s
    let (outcomes, s'') := service.runAll errands s'
    (outcome :: outcomes, s'')

/-- **A run adds a balanced account**, which is settled if no roll failed. -/
theorem exists_account_runAll (settings : Settings) (errands : List Errand) (s : Session σ)
    (h : s.metrics.Legible) :
    let run := (Service.standard settings).runAll errands s
    ∃ a : Account, a.Balanced ∧ run.2.metrics.Legible
      ∧ Account.ofMetrics run.2.metrics = Account.ofMetrics s.metrics + a
      ∧ ((∀ p ∈ errands.zip run.1, p.1.IsRoll → p.2.isOk) → a.Settled) := by
  induction errands generalizing s with
  | nil =>
    refine ⟨{}, ⟨Int.le_refl _, Int.le_refl _, Int.le_refl _⟩, h, ?_, fun _ => rfl⟩
    simp [Service.runAll, Account.add_def]
  | cons e errands ih =>
    obtain ⟨b, hsound, hmetrics, hfailed⟩ := exists_booking settings e s
    have hlegible := b.legible_post h e.duration
    have haccount := b.account_post s.metrics e.duration
    rw [← hmetrics] at hlegible haccount
    obtain ⟨a, hbalanced, hlegible', haccount', hsettled⟩ := ih _ hlegible
    refine ⟨b.account + a, hsound.balanced.add hbalanced, hlegible', ?_, fun hok => ?_⟩
    · rw [← Account.add_assoc, ← haccount]
      exact haccount'
    · have hok' := List.forall_mem_cons.1 hok
      exact (Booking.settled (hfailed hok'.1)).add (hsettled hok'.2)

/-- **The counters of rolls balance after every run of commands** — from reset metrics on, whatever
was asked for and however it ended, with any dice. No more chance dice are botched than are rolled;
chance dice and exceptional successes together are no more than the rolls; and rolls and refused texts
together are no more than the rolls that were measured, and just as many if every errand that asked
for a roll ended well. -/
theorem accounts_balance (settings : Settings) (errands : List Errand) (s : Session σ) :
    let run := (Service.standard settings).runAll errands { s with metrics := {} }
    let told := fun name => run.2.metrics.flatten.getD name 0
    told "roll.botch" ≤ told "roll.chance"
      ∧ told "roll.chance" + told "roll.exceptional" ≤ told "roll.performed"
      ∧ told "roll.performed" + told "roll.parse_error"
        ≤ told "histo.command.roll.duration_ms.count"
      ∧ ((∀ p ∈ errands.zip run.1, p.1.IsRoll → p.2.isOk) →
        told "roll.performed" + told "roll.parse_error"
          = told "histo.command.roll.duration_ms.count") := by
  intro run told
  obtain ⟨a, hbalanced, hlegible, haccount, hsettled⟩ :=
    exists_account_runAll settings errands { s with metrics := {} } .empty
  have hcounter : ∀ {name : String}, ¬Metrics.IsEntryName name →
      told name = run.2.metrics.get name := fun hname =>
    hlegible.getD_flatten_of_not_entryName hname
  have hmeasured : told "histo.command.roll.duration_ms.count"
      = run.2.metrics.observed Booking.rollDuration :=
    hlegible.getD_flatten_count Booking.rollDuration
  have htold : a = Account.ofMetrics run.2.metrics := by
    rw [haccount, Account.ofMetrics_empty_add]
  rw [hcounter (by decide), hcounter (by decide), hcounter (by decide), hcounter (by decide),
    hcounter (by decide), hmeasured]
  subst htold
  exact ⟨hbalanced.botch_le, hbalanced.chance_le, hbalanced.performed_le, hsettled⟩

/-- A chance die that shows a one, asked for once and answered. -/
theorem accounts_balance_botched :
    let e : Errand := ⟨false, 3, {
      id := "1", kind := 2, token := "t", applicationId := "a"
      data := some ⟨some "roll", some [[("name", .str "pool"), ("value", .str "chance")]]⟩
      guildId := none, channelId := none, member := none, user := none }⟩
    let s : Session Script := { table := { source := .ofList [.pips (.number 1)] } }
    let run := (Service.standard {}).runAll [e] { s with metrics := {} }
    let told := fun name => run.2.metrics.flatten.getD name 0
    (∀ p ∈ [e].zip run.1, p.1.IsRoll → p.2.isOk)
      ∧ told "roll.botch" = 1 ∧ told "roll.performed" = 1
      ∧ told "roll.performed" + told "roll.parse_error"
        = told "histo.command.roll.duration_ms.count" := by
  intro e s run told
  let asked : Asked := ⟨"roll", none, [("pool", .str "chance")], "0", none⟩
  let values : Named Json := [("pool", .str "chance"), ("modifiers", .null),
    ("rote", .bool false), ("nine_again", .bool false), ("eight_again", .bool false),
    ("no_explode", .bool false)]
  let handled : BotM Script Unit :=
    Bot.roll ((Service.standard {} : Service Script).invocation asked) (.ofValues values)
      >>= deliver ⟨.standard, "a", "t"⟩
  have hform : RollOptions.form.check asked.options = .ok values := by
    simp [RollOptions.form, Form.check, Form.fields, Shape.checkFields, Shape.check, asked,
      Named.get?_cons, values, checkText, both, inside, Except.mapError]
  have hrun : run = ([((bracket asked 3 handled).runOn s).1],
      ((bracket asked 3 handled).runOn s).2) := by
    have hserve : (Service.standard {}).run e s = (bracket asked 3 handled).runOn s := by
      change ((Service.standard {}).serve ⟨.standard, "a", "t"⟩ 3 asked Bot.rollCommand).runOn s = _
      rw [Service.serve, show Bot.rollCommand.form.check asked.options = .ok values from hform]
      rfl
    change ([((Service.standard {}).run e s).1], ((Service.standard {}).run e s).2) = _
    rw [hserve]
  have htold : ∀ name, told name
      = ((bracket asked 3 handled).runOn s).2.metrics.flatten.getD name 0 := fun name => by
    change run.2.metrics.flatten.getD name 0 = _
    rw [hrun]
  have hok : ∀ p ∈ [e].zip run.1, p.1.IsRoll → p.2.isOk := by
    rw [hrun]
    refine List.forall_mem_singleton.2 fun _ => ?_
    decide +kernel
  refine ⟨hok, ?_, ?_, (accounts_balance {} [e] s).2.2.2 hok⟩
  · rw [htold]
    decide +kernel
  · rw [htold]
    decide +kernel

end DicePool.Discord
