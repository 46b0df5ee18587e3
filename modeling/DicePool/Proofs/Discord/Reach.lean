import DicePool.Proofs.Discord.Accounts
import DicePool.Proofs.Discord.Options
import DicePool.Proofs.Network.Sending

/-!
# Proofs/Discord/Reach — how far a command comes that was found

Once its command is found, an interaction comes to one of three ends. Its options are refused, which
one reply says to the asker alone (`Refuses`); the handler is reached (`Reaches`); or the options
cannot be taken apart at all. The options that it carries itself are lists of objects by their type,
but those of a subcommand may be any value, so the third end is there: main statement
`reach_of_found`.
-/

namespace DicePool

namespace Discord

open BotM

variable {σ : Type}

/-- **A delivered reply is one request more**, and its delivery is reported. -/
theorem runOn_deliver_of_accepts {recipient : Recipient} {reply : Reply} {s : Session σ}
    (h : s.network.Accepts (recipient.request reply)) :
    ∃ url authorization journal, (deliver recipient reply).runOn s = (.ok (), { s with
      network := {
        answers := s.network.answers.tail
        sent := s.network.sent.push { recipient.request reply with url, authorization } }
      journal }) := by
  obtain ⟨response, hresponse, hstatus⟩ := h
  obtain ⟨url, authorization, hsent⟩ := Network.exists_sent hresponse
  have hfault : faultOf recipient.base (.ok response) = none := by
    have hsuccess : response.success = .ok response := by rw [Response.success, if_pos hstatus]
    unfold faultOf
    rw [show (Except.ok response).bind Response.success = response.success from rfl, hsuccess]
  refine ⟨url, authorization, s.journal.push (sendEvent recipient.base reply)
    ++ outcomeEvents recipient.base (.ok response), ?_⟩
  rw [runOn_deliver]
  dsimp only
  rw [hresponse, hfault, hsent]

/-! ## Ends -/

namespace Service

/-- Where replies to an interaction go. -/
def recipient (service : Service σ) (isLocal : Bool) (i : Interaction) : Recipient :=
  ⟨.ofSettings service.settings isLocal, i.applicationId, i.token⟩

/-- The options were refused: a reply says so to the asker, and nothing else has happened. -/
structure Refuses (name : String) (s : Session σ) (run : Except Fault Unit × Session σ) : Prop where
  /-- The command ends well. -/
  outcome : run.1 = .ok ()
  /-- The refusal is counted. -/
  metrics : run.2.metrics = s.metrics.increment "command.options_error"
  /-- One request is sent, which tells the asker alone. -/
  sent : ∃ r : WebRequest, run.2.network.sent = s.network.sent.push r ∧ r.method = "POST"
    ∧ r.body = some (.obj [("content", .str ("❌ Invalid options for \x60" ++ name ++ "\x60.")),
      ("flags", .int 64)])
  /-- No dice are drawn. -/
  table : run.2.table = s.table ∧ run.2.shared = s.shared

/-- The handler was reached: its start is reported before it runs, and once it has run and its reply
is delivered, it is measured once. -/
structure Reaches (service : Service σ) (recipient : Recipient) (duration : Int) (a : Asked)
    (c : Command (Handler σ)) (values : Named Json) (s : Session σ)
    (run : Except Fault Unit × Session σ) : Prop where
  /-- The command ends as the handler and the delivery of its reply do. -/
  outcome : run.1 = ((c.handler (service.invocation a) values >>= deliver recipient).runOn
    { s with journal := s.journal.push a.initiated }).1
  /-- The duration is measured, and nothing else is counted that the handler does not count. -/
  metrics : run.2.metrics = ((c.handler (service.invocation a) values).runOn
    { s with journal := s.journal.push a.initiated }).2.metrics.observe a.histogram duration

variable (service : Service σ) (recipient : Recipient) (duration : Int) {a : Asked}
  {c : Command (Handler σ)} (s : Session σ)

/-- **Options that a form does not accept are refused.** -/
theorem refuses_of_error {problems : List Problem} (hform : c.form.check a.options = .error problems)
    (h : s.network.Accepts (recipient.request a.invalidOptions)) :
    Refuses a.name s ((service.serve recipient duration a c).runOn s) := by
  have hcounted : ({ s with metrics := s.metrics.increment "command.options_error" } :
      Session σ).network.Accepts (recipient.request a.invalidOptions) := h
  obtain ⟨url, authorization, journal, hdeliver⟩ := runOn_deliver_of_accepts hcounted
  have hserve : (service.serve recipient duration a c).runOn s = (.ok (), { s with
      metrics := s.metrics.increment "command.options_error"
      network := {
        answers := s.network.answers.tail
        sent := s.network.sent.push { recipient.request a.invalidOptions with url, authorization } }
      journal }) := by
    rw [serve, hform]
    dsimp only
    rw [runOn_bind_of_ok (runOn_count _ _), hdeliver]
  rw [hserve]
  exact ⟨rfl, rfl, ⟨_, rfl, rfl, rfl⟩, rfl, rfl⟩

/-- **Options that a form accepts reach the handler.** -/
theorem reaches_of_ok {values : Named Json} (hform : c.form.check a.options = .ok values) :
    Reaches service recipient duration a c values s
      ((service.serve recipient duration a c).runOn s) := by
  obtain ⟨houtcome, hmetrics⟩ := runOn_bracket a duration
    (c.handler (service.invocation a) values >>= deliver recipient) s
  rw [service.serve_of_ok recipient duration hform]
  exact ⟨houtcome, hmetrics.trans (by rw [metrics_bind_deliver])⟩

end Service

/-- What an interaction asks for, by a name and with options. -/
def Interaction.asked (i : Interaction) (name : String) (options : Named Json) : Asked :=
  ⟨name, i.subcommand, options, i.userId, i.guildId⟩

theorem Service.dispatch_eq_serve {service : Service σ} {isLocal : Bool} {duration : Int}
    {i : Interaction} {name : String} {c : Command (Handler σ)} {options : Named Json}
    (hname : i.data.bind (·.name) = some name)
    (hfind : service.registry.find? name i.subcommand = some c) (hoptions : i.options = .ok options) :
    service.dispatch isLocal duration i
      = service.serve (service.recipient isLocal i) duration (i.asked name options) c := by
  simp only [Service.dispatch, hname, hfind, hoptions]
  rfl

/-- **A command that was found is refused or reached if its options can be taken apart** — and that
is so just in case they are given as a list of objects, or by a value that counts as false. Of any
other value in a subcommand the dispatch fails, and the asker is told nothing. -/
theorem reach_of_found (service : Service σ) (isLocal : Bool) (duration : Int) {i : Interaction}
    {name : String} {c : Command (Handler σ)} (s : Session σ)
    (hname : i.data.bind (·.name) = some name)
    (hfind : service.registry.find? name i.subcommand = some c)
    (hsend : s.network.Accepts
      ((service.recipient isLocal i).request (i.asked name []).invalidOptions)) :
    let run := (service.dispatch isLocal duration i).runOn s
    ((¬∃ l, i.Gives l) → ∃ e, run = (.error (.interaction e), s))
      ∧ ∀ l, i.Gives l →
        let a := i.asked name (l.foldl Interaction.addOption [])
        match c.form.check a.options with
        | .error _ => Service.Refuses name s run
        | .ok values =>
          service.Reaches (service.recipient isLocal i) duration a c values s run := by
  intro run
  constructor
  · intro hgives
    obtain ⟨e, he⟩ : ∃ e, i.options = .error e := by
      cases hoptions : i.options with
      | error e => exact ⟨e, rfl⟩
      | ok options =>
        obtain ⟨l, hl, -⟩ := Interaction.options_eq_ok_iff.1 hoptions
        exact absurd ⟨l, hl⟩ hgives
    refine ⟨e, ?_⟩
    simp only [run, Service.dispatch, hname, hfind, he]
    exact runOn_throw _ _
  · intro l hl a
    have hoptions : i.options = .ok a.options := Interaction.options_eq_ok_iff.2 ⟨l, hl, rfl⟩
    have hrun : run = (service.serve (service.recipient isLocal i) duration a c).runOn s :=
      congrArg (·.runOn s) (Service.dispatch_eq_serve hname hfind hoptions)
    rw [hrun]
    cases hform : c.form.check a.options with
    | error problems => exact service.refuses_of_error _ duration s hform hsend
    | ok values => exact service.reaches_of_ok _ duration s hform

/-- The pool of a roll is a number in place of a text, in a subcommand, which is refused. -/
theorem reach_of_found_number_for_pool :
    let service : Service Script := .standard {}
    let pool : Named Json := [("name", .str "pool"), ("value", .int 5)]
    let i : Interaction := {
      id := "1", kind := 2, token := "t", applicationId := "a"
      data := some ⟨some "roll", some [[("type", .int 1), ("options", .arr [.obj pool])]]⟩
      guildId := none, channelId := none, member := none, user := none }
    let s : Session Script := { table := { source := .ofList [] } }
    i.data.bind (·.name) = some "roll"
      ∧ service.registry.find? "roll" i.subcommand = some Bot.rollCommand
      ∧ s.network.Accepts ((service.recipient false i).request (i.asked "roll" []).invalidOptions)
      ∧ i.Gives [pool] ∧ Service.Refuses "roll" s ((service.dispatch false 0 i).runOn s) := by
  intro service pool i s
  have hfind : service.registry.find? "roll" i.subcommand = some Bot.rollCommand := rfl
  have hsend : s.network.Accepts
      ((service.recipient false i).request (i.asked "roll" []).invalidOptions) :=
    ⟨⟨204, ""⟩, by decide +kernel, by decide⟩
  have hgives : i.Gives [pool] := .inr rfl
  obtain ⟨problems, hform⟩ : ∃ problems,
      RollOptions.form.check [("pool", .int 5)] = .error problems := by
    simp [RollOptions.form, Form.check, Form.fields, Shape.checkFields, Shape.check,
      Named.get?_cons, checkText, complain, both, inside, Except.mapError]
  refine ⟨rfl, hfind, hsend, hgives, ?_⟩
  have hreach := (reach_of_found service false 0 s rfl hfind hsend).2 [pool] hgives
  change (match RollOptions.form.check [("pool", .int 5)] with
    | .error _ => _
    | .ok _ => _) at hreach
  rw [hform] at hreach
  exact hreach

/-- **A null in a subcommand breaks the dispatch**: the interaction is accepted, its command is found
and a reply would arrive, but there is none. -/
theorem not_reached_null_in_subcommand :
    let service : Service Script := .standard {}
    let i : Interaction := {
      id := "1", kind := 2, token := "t", applicationId := "a"
      data := some ⟨some "roll", some [[("type", .int 1), ("options", .arr [.null])]]⟩
      guildId := none, channelId := none, member := none, user := none }
    let s : Session Script := { table := { source := .ofList [] } }
    Interaction.ofJson i.toJson = .ok i
      ∧ service.registry.find? "roll" i.subcommand = some Bot.rollCommand
      ∧ s.network.Accepts ((service.recipient false i).request (i.asked "roll" []).invalidOptions)
      ∧ (service.dispatch false 0 i).runOn s
        = (.error (.interaction (.noFields "NoneType")), s) := by
  intro service i s
  refine ⟨?_, rfl, ⟨⟨204, ""⟩, by decide +kernel, by decide⟩, rfl⟩
  simp [i, Interaction.toJson, Interaction.dataJson, Interaction.ofJson, Interaction.shape,
    Interaction.optionalText, Json.strOrNull, Json.ofOption, Shape.check, Shape.checkFields,
    Shape.checkItems, checkText, checkWhole, wholeOfValue, both, inside, Except.mapError, Except.map,
    Named.get?_cons, bind, Except.bind, pure, Except.pure]
  rfl

end Discord

end DicePool
