import DicePool.Proofs.Discord.Admission
import DicePool.Proofs.Discord.Bracket
import DicePool.Proofs.Network.Place

/-!
# Proofs/Discord/Followups — where replies go

The settings may name another base for replies, but only requests that are verified with the other key
are answered there (`RepliesTo`). A request has one reply at most, which is posted under the base of the
request; and what becomes of it is felt if the base is the service proper, and not if it is another
(`Gateway.Follows`). That is proved for one request, and from it for whole runs: main statement
`followups_by_base`.

The answer of the network comes last in every dispatch (`Delivered`), so a failed delivery is the
failure of the dispatch, or it is none. A base whose address is on the web keeps that address whatever
follows it, by `Url.samePlace_trim_append`, so nothing in an interaction turns its reply elsewhere.
-/

namespace DicePool

/-- The failure that an answer is, unless it is a success. -/
def Answer.failure? : Answer → Option DeliveryError
  | .response r => if isSuccessStatus r.status then none else some (.status r.status)
  | .outage kind message => some (.outage kind message)

namespace Discord

open BotM

variable {σ : Type}

/-! ## The base of a reply -/

/-- The base of the replies to a request: another one, if the settings name it and the request is
verified with the other key; and else the service proper. -/
inductive RepliesTo (settings : Settings) (a : Arrival) : Base → Prop where
  | override {url key : String} (hurl : settings.webhookOverride = some url) (hne : url ≠ "")
      (hasked : a.header? "X-Darkroller-Use-Dev-Key" = some "1") (henv : settings.env = "dev")
      (hkey : settings.devPublicKey = some key) (hkeyne : key ≠ "") :
      RepliesTo settings a (.override url)
  | standard (h : ¬((∃ url, settings.webhookOverride = some url ∧ url ≠ "")
      ∧ a.header? "X-Darkroller-Use-Dev-Key" = some "1" ∧ settings.env = "dev"
      ∧ ∃ key, settings.devPublicKey = some key ∧ key ≠ "")) : RepliesTo settings a .standard

/-- **One base is that of the replies to a request.** -/
theorem repliesTo_ofSettings (settings : Settings) (a : Arrival) :
    RepliesTo settings a (.ofSettings settings (isLocal settings a)) := by
  by_cases hurl : ∃ url, settings.webhookOverride = some url ∧ url ≠ ""
  · obtain ⟨url, hurl, hne⟩ := hurl
    rw [Base.ofSettings, hurl]
    dsimp only
    by_cases hlocal : isLocal settings a
    · obtain ⟨hasked, henv, key, hkey, hkeyne⟩ := isLocal_iff.1 hlocal
      rw [if_pos ⟨hne, hlocal⟩]
      exact .override hurl hne hasked henv hkey hkeyne
    · rw [if_neg fun h => hlocal h.2]
      exact .standard fun h => hlocal (isLocal_iff.2 h.2)
  · have hstandard : Base.ofSettings settings (isLocal settings a) = .standard := by
      unfold Base.ofSettings
      split
      next url hsome => exact if_neg fun h => hurl ⟨url, hsome, h.1⟩
      next => rfl
    rw [hstandard]
    exact .standard fun h => hurl h.1

/-- Outside of `dev` all replies go to the service proper. -/
theorem RepliesTo.eq_standard {settings : Settings} {a : Arrival} {base : Base}
    (h : RepliesTo settings a base) (henv : settings.env ≠ "dev") : base = .standard := by
  cases h with
  | override hurl hne hasked hdev => exact absurd hdev henv
  | standard => rfl

/-- A text without the slashes at its end. -/
def IsTrimmed (text trimmed : String) : Prop :=
  trimmed.toList.getLast? ≠ some '/' ∧ ∃ n, text.toList = trimmed.toList ++ List.replicate n '/'

theorem isTrimmed_dropEndWhile (text : String) :
    IsTrimmed text (String.ofList (Text.dropEndWhile (· == '/') text.toList)) := by
  rw [IsTrimmed, String.toList_ofList]
  constructor
  · intro hlast
    have hne : Text.dropEndWhile (· == '/') text.toList ≠ [] := by
      rintro hnil
      rw [hnil] at hlast
      cases hlast
    rw [List.getLast?_eq_some_getLast hne] at hlast
    exact List.rdropWhile_last_not _ _ hne (beq_iff_eq.2 (Option.some.inj hlast))
  · refine ⟨(text.toList.rtakeWhile (· == '/')).length, ?_⟩
    have hslashes : ∀ c ∈ text.toList.rtakeWhile (· == '/'), c = '/' := by
      intro c hc
      have hrun := List.mem_rtakeWhile_imp hc
      exact beq_iff_eq.1 hrun
    rw [← List.eq_replicate_length.2 hslashes]
    exact List.rdropWhile_append_rtakeWhile.symm

namespace Base

/-- The address of a base, as it is named. -/
def named : Base → String
  | .standard => apiBase
  | .override url => url

/-- A base has an address on the web. -/
def IsWeb (base : Base) : Prop :=
  ∃ home, Url.parse base.named = .ok home ∧ home.IsWeb

/-- What the failure of a delivery is to the command: the failure of it, if the base is the service
proper, and nothing if it is another. -/
def faultOfFailure (failure : Option DeliveryError) : Base → Option Fault
  | .standard => failure.map .delivery
  | .override _ => none

theorem url_eq_trim (base : Base) :
    base.url = String.ofList (Text.dropEndWhile (· == '/') base.named.toList) := by
  cases base with
  | standard => decide +kernel
  | override url => rfl

/-- **The address of a base is the one that is named**, without the slashes at its end. -/
theorem isTrimmed_url (base : Base) : IsTrimmed base.named base.url := by
  rw [url_eq_trim]
  exact isTrimmed_dropEndWhile base.named

theorem isWeb_standard : standard.IsWeb :=
  ⟨{ scheme := "https".toList, host := "discord.com".toList, path := "/api/v10".toList },
    by decide +kernel, by decide, by decide⟩

end Base

/-- The other base, where one is named, has an address on the web. -/
def OverridesWeb (settings : Settings) : Prop :=
  ∀ url, settings.webhookOverride = some url → url ≠ "" → (Base.override url).IsWeb

theorem RepliesTo.isWeb {settings : Settings} {a : Arrival} {base : Base}
    (h : RepliesTo settings a base) (hweb : OverridesWeb settings) : base.IsWeb := by
  cases h with
  | override hurl hne => exact hweb _ hurl hne
  | standard => exact Base.isWeb_standard

/-- A request posts a reply to an interaction under a base: the webhook of the interaction is written
behind the address of the base, without slashes between them, and is where the base is. -/
structure IsFollowup (base : Base) (i : Interaction) (r : WebRequest) : Prop where
  method : r.method = "POST"
  url : ∃ (trimmed : String) (home url : Url), IsTrimmed base.named trimmed
    ∧ Url.parse (trimmed ++ "/webhooks/" ++ i.applicationId ++ "/" ++ i.token) = .ok url
    ∧ r.url = url.render
    ∧ Url.parse base.named = .ok home ∧ url.SamePlace home

/-! ## One delivery -/

/-- The webhook of an interaction is where the base is. -/
theorem samePlace_of_parse_url (recipient : Recipient) {home url : Url}
    (hhome : Url.parse recipient.base.named = .ok home) (habsolute : home.isAbsolute)
    (hurl : Url.parse recipient.url = .ok url) : url.SamePlace home := by
  let path := "/webhooks/" ++ recipient.applicationId ++ "/" ++ recipient.token
  have hpath : Url.EndsPlace path.toList := by
    simp only [path, String.toList_append]
    exact .slash _
  have htext : recipient.url
      = String.ofList (Text.dropEndWhile (· == '/') recipient.base.named.toList) ++ path := by
    rw [Recipient.url, Base.url_eq_trim]
    simp only [path, String.append_assoc]
  exact Url.samePlace_trim_append hhome habsolute hpath (htext ▸ hurl)

/-- **A failure is felt if the base is the service proper**, and not if it is another. -/
theorem faultOf_outcomeOf {url : Url} (habsolute : url.isAbsolute) (base : Base) (answer : Answer) :
    faultOf base (Network.outcomeOf url answer) = base.faultOfFailure answer.failure? := by
  cases answer with
  | outage kind message => cases base <;> rfl
  | response r =>
    have hresponse : Network.outcomeOf url (.response r) = .ok r := if_pos habsolute
    have hsuccess : (Except.ok r : Except DeliveryError Response).bind Response.success
        = if isSuccessStatus r.status then .ok r else .error (.status r.status) := rfl
    unfold faultOf
    rw [hresponse, hsuccess, Answer.failure?]
    cases isSuccessStatus r.status <;> cases base <;> rfl

/-- **A reply is posted under its base, or its address is none**, which is felt. What becomes of a reply
that is posted is felt if the base is the service proper. -/
theorem send_followup {base : Base} (hbase : base.IsWeb) (i : Interaction) (reply : Reply)
    (n : Network) :
    let sent := n.send (Recipient.request ⟨base, i.applicationId, i.token⟩ reply)
    (sent.2 = n ∧ (faultOf base sent.1).isSome)
      ∨ ∃ r, IsFollowup base i r
        ∧ sent.2 = { answers := n.answers.tail, sent := n.sent.push r }
        ∧ faultOf base sent.1 = base.faultOfFailure n.take.1.failure? := by
  intro sent
  obtain ⟨home, hhome, hweb⟩ := hbase
  let recipient : Recipient := ⟨base, i.applicationId, i.token⟩
  have hlost : ∀ {e : DeliveryError}, Network.addressOf (recipient.request reply) = .error e →
      (faultOf base (.error e)).isSome → sent.2 = n ∧ (faultOf base sent.1).isSome := by
    intro e haddress hfault
    have hsend : sent = (.error e, n) := by
      change n.send (recipient.request reply) = _
      rw [Network.send, haddress]
    rw [hsend]
    exact ⟨rfl, hfault⟩
  cases hparse : Url.parse recipient.url with
  | error e => exact .inl (hlost (Network.addressOf_of_error hparse) (by cases base <;> rfl))
  | ok url =>
    have hsame := samePlace_of_parse_url recipient hhome hweb.absolute hparse
    have habsolute := (hsame.isWeb hweb).absolute
    have haddress := Network.addressOf_of_parse (r := recipient.request reply) hparse habsolute rfl
    cases hhost : url.checkHost with
    | error e =>
      rw [hhost] at haddress
      exact .inl (hlost haddress (by cases base <;> rfl))
    | ok _ =>
      rw [hhost] at haddress
      let r : WebRequest := { recipient.request reply with
        url := url.render, authorization := url.authorization? <|> none }
      have hsend : sent
          = (Network.outcomeOf url n.take.1, { answers := n.answers.tail, sent := n.sent.push r }) :=
        Network.send_of_addressOf haddress n
      have hfollowup : IsFollowup base i r :=
        ⟨rfl, base.url, home, url, base.isTrimmed_url, hparse, rfl, hhome, hsame⟩
      right
      exact ⟨r, hfollowup, congrArg Prod.snd hsend, hsend ▸ faultOf_outcomeOf habsolute base _⟩

/-! ## One dispatch -/

/-- The failure of a run, if it failed. -/
def faultIn : Except Fault Unit → Option Fault
  | .ok _ => none
  | .error e => some e

/-- A run ended with the delivery of a reply, before which nothing was sent, and failed just as that
did. -/
structure Delivered (recipient : Recipient) (reply : Reply) (n : Network)
    (run : Except Fault Unit × Session σ) : Prop where
  network : run.2.network = (n.send (recipient.request reply)).2
  fault : faultIn run.1 = faultOf recipient.base (n.send (recipient.request reply)).1

/-- An interaction asks for a command that a service has. -/
def Service.Knows (service : Service σ) (i : Interaction) : Prop :=
  ∃ name c, i.data.bind (·.name) = some name ∧ service.registry.find? name i.subcommand = some c

/-- A run ended with the delivery of a reply, or has sent nothing; and the latter only if it failed, or
if there is no such command. -/
def Ends (recipient : Recipient) (known : Prop) (n : Network)
    (run : Except Fault Unit × Session σ) : Prop :=
  (run.2.network = n ∧ (known → (faultIn run.1).isSome)) ∨ ∃ reply, Delivered recipient reply n run

theorem delivered_deliver (recipient : Recipient) (reply : Reply) (s : Session σ) :
    Delivered recipient reply s.network ((deliver recipient reply).runOn s) := by
  rw [runOn_deliver]
  refine ⟨rfl, ?_⟩
  dsimp only
  cases faultOf recipient.base (s.network.send (recipient.request reply)).1 <;> rfl

/-- A command that has not sent anything itself ends with the delivery of its reply, or has none. -/
theorem ends_bind_deliver (recipient : Recipient) (known : Prop) {x : BotM σ Reply} {s : Session σ}
    (hx : (x.runOn s).2.network = s.network) :
    Ends recipient known s.network ((x >>= deliver recipient).runOn s) := by
  rw [runOn_bind]
  rcases hrun : x.runOn s with ⟨e | reply, s'⟩ <;> rw [hrun] at hx
  · exact .inl ⟨hx, fun _ => rfl⟩
  · exact .inr ⟨reply, hx ▸ delivered_deliver recipient reply s'⟩

/-- The bracket sends nothing, and hides no failure. -/
theorem Delivered.bracket {recipient : Recipient} {reply : Reply} {n : Network} {a : Asked}
    {run : BotM σ Unit} {s : Session σ}
    (h : Delivered recipient reply n (run.runOn { s with journal := s.journal.push a.initiated }))
    (duration : Int) : Delivered recipient reply n ((bracket a duration run).runOn s) := by
  rw [runOn_bracket_eq]
  exact ⟨h.network, h.fault⟩

theorem Ends.bracket {recipient : Recipient} {known : Prop} {n : Network} {a : Asked}
    {run : BotM σ Unit} {s : Session σ}
    (h : Ends recipient known n (run.runOn { s with journal := s.journal.push a.initiated }))
    (duration : Int) : Ends recipient known n ((Discord.bracket a duration run).runOn s) := by
  rcases h with ⟨hnetwork, hfails⟩ | ⟨reply, hdelivered⟩
  · rw [runOn_bracket_eq]
    exact .inl ⟨hnetwork, hfails⟩
  · exact .inr ⟨reply, hdelivered.bracket duration⟩

namespace Gateway

/-- A request that asks for a command fails and sends as the dispatch of that does. -/
theorem exists_dispatched (g : Gateway σ) {a : Arrival} {s : Session σ} {i : Interaction}
    (hposted : a.IsPosted) (hsigned : g.IsSigned a) (hbody : Interaction.ofBytes a.body = .ok i)
    (h : i.asksCommand) :
    ∃ journal, let run := (g.dispatch (isLocal g.settings a) 0 i).runOn { s with journal }
      (g.step a s).served.fault = faultIn run.1 ∧ (g.step a s).after.network = run.2.network := by
  obtain ⟨journal, journal', hstep⟩ := g.exists_step_of_asks (s := s) hposted hsigned hbody h
  refine ⟨journal, ?_⟩
  rw [hstep]
  exact ⟨rfl, rfl⟩

end Gateway

variable [Source σ]

/-- **A dispatch ends with the delivery of a reply**, unless it fails before or there is no such
command. -/
theorem ends_dispatch (settings : Settings) (isLocal : Bool) (duration : Int) (i : Interaction)
    (s : Session σ) :
    let service : Service σ := .standard settings
    Ends (service.recipient isLocal i) (service.Knows i) s.network
      ((service.dispatch isLocal duration i).runOn s) := by
  intro service
  cases hname : i.data.bind (·.name) with
  | none =>
    simp only [Service.dispatch, hname]
    exact .inl ⟨rfl, fun _ => rfl⟩
  | some name =>
    cases hfound : service.registry.find? name i.subcommand with
    | none =>
      have hunknown : ¬service.Knows i := by
        rintro ⟨name', c, hname', hfound'⟩
        obtain rfl := Option.some.inj (hname.symm.trans hname')
        rw [hfound] at hfound'
        cases hfound'
      simp only [Service.dispatch, hname, hfound]
      exact .inl ⟨rfl, fun h => absurd h hunknown⟩
    | some c =>
      cases hoptions : i.options with
      | error e =>
        simp only [Service.dispatch, hname, hfound, hoptions]
        exact .inl ⟨rfl, fun _ => rfl⟩
      | ok options =>
        rw [Service.dispatch_eq_serve hname hfound hoptions]
        cases hform : c.form.check (i.asked name options).options with
        | error problems =>
          rw [Service.serve, hform]
          dsimp only
          rw [runOn_bind_of_ok (runOn_count _ _)]
          exact .inr ⟨_, delivered_deliver (service.recipient isLocal i)
            (i.asked name options).invalidOptions
            { s with metrics := s.metrics.increment "command.options_error" }⟩
        | ok values =>
          have hsettings : (service.invocation (i.asked name options)).settings = some settings := rfl
          have hquiet := (undelivered_of_find? hfound hsettings values
            { s with journal := s.journal.push (i.asked name options).initiated }).network
          rw [service.serve_of_ok _ _ hform]
          exact (ends_bind_deliver _ _ hquiet).bracket duration

/-! ## One request -/

namespace Gateway

/-- What a request may send. -/
inductive Follows (g : Gateway σ) (t : Step σ) : Prop where
  /-- Nothing; and it is not admitted, or fails, or asks for a command that there is not. -/
  | quiet (network : t.after.network = t.before.network)
      (why : g.Admits t.arrival → t.served.fault.isSome
        ∨ ∃ i, Interaction.ofBytes t.arrival.body = .ok i ∧ ¬g.Knows i)
  /-- One reply, if it is admitted, under the base for it; and the failure of that is the failure of the
  command if the base is the service proper, and none if it is another. -/
  | reply {base : Base} {i : Interaction} {r : WebRequest} (admits : g.Admits t.arrival)
      (body : Interaction.ofBytes t.arrival.body = .ok i)
      (repliesTo : RepliesTo g.settings t.arrival base) (followup : IsFollowup base i r)
      (network : t.after.network
        = { answers := t.before.network.answers.tail, sent := t.before.network.sent.push r })
      (fault : t.served.fault = base.faultOfFailure t.before.network.take.1.failure?)

/-- A gateway with the commands that there are. -/
def standard (settings : Settings) (verify : Verifier) : Gateway σ where
  toService := .standard settings
  verify

variable (settings : Settings) (verify : Verifier)

theorem verify_standard : (standard settings verify : Gateway σ).verify = verify := rfl

/-- **A request sends what it may.** -/
theorem follows_step (hweb : OverridesWeb settings) (a : Arrival) (s : Session σ) :
    (standard settings verify).Follows ((standard settings verify).step a s) := by
  let g : Gateway σ := standard settings verify
  by_cases hadmits : g.Admits a
  · obtain ⟨i, data, name, hbody, hkind, hdata, hname⟩ := hadmits.asks
    obtain ⟨journal, hfault, hnetwork⟩ := g.exists_dispatched (s := s) hadmits.posted hadmits.signed
      hbody (Interaction.asksCommand_iff.2 ⟨hkind, data, name, hdata, hname⟩)
    have hends := ends_dispatch settings (isLocal settings a) 0 i { s with journal }
    have hbase := repliesTo_ofSettings settings a
    rcases hends with ⟨hquiet, hfails⟩ | ⟨reply, hdelivered⟩
    · refine .quiet (hnetwork.trans hquiet) fun _ => ?_
      by_cases hknown : g.Knows i
      · exact .inl (hfault ▸ hfails hknown)
      · exact .inr ⟨i, hbody, hknown⟩
    · have hsent := hnetwork.trans hdelivered.network
      have hfelt := hfault.trans hdelivered.fault
      rcases send_followup (hbase.isWeb hweb) i reply s.network with
        ⟨hlost, hsome⟩ | ⟨r, hfollowup, hposted, hfailure⟩
      · exact .quiet (hsent.trans hlost) fun _ => .inl (hfelt ▸ hsome)
      · exact .reply hadmits hbody hbase hfollowup (hsent.trans hposted) (hfelt.trans hfailure)
  · exact .quiet (g.untouched_of_not_admits hadmits).network fun h => absurd h hadmits

/-! ## Whole runs -/

/-- **A run posts nothing but replies**, each under the base of its request. -/
theorem exists_posted (hweb : OverridesWeb settings) (arrivals : List Arrival) (s : Session σ) :
    let g : Gateway σ := standard settings verify
    ∃ posts : List WebRequest,
      (g.after arrivals s).network.sent.toList = s.network.sent.toList ++ posts
      ∧ ∀ r ∈ posts, ∃ t ∈ g.steps arrivals s, ∃ base i, g.Admits t.arrival
        ∧ RepliesTo settings t.arrival base ∧ IsFollowup base i r := by
  intro g
  induction arrivals generalizing s with
  | nil => exact ⟨[], (List.append_nil _).symm, List.forall_mem_nil _⟩
  | cons a arrivals ih =>
    obtain ⟨posts, hsent, hposts⟩ := ih (g.step a s).after
    have hlater : ∀ r ∈ posts, ∃ t ∈ g.steps (a :: arrivals) s, ∃ base i, g.Admits t.arrival
        ∧ RepliesTo settings t.arrival base ∧ IsFollowup base i r := by
      intro r hr
      obtain ⟨t, ht, h⟩ := hposts r hr
      exact ⟨t, List.mem_cons_of_mem _ ht, h⟩
    have hafter : (g.after (a :: arrivals) s).network.sent.toList
        = (g.step a s).after.network.sent.toList ++ posts := hsent
    cases follows_step settings verify hweb a s with
    | quiet hnetwork =>
      refine ⟨posts, ?_, hlater⟩
      rw [hafter, show (g.step a s).after.network = s.network from hnetwork]
    | @reply base i r hadmits hbody hbase hfollowup hnetwork =>
      refine ⟨r :: posts, ?_, List.forall_mem_cons.2
        ⟨⟨_, List.mem_cons_self, base, i, hadmits, hbase, hfollowup⟩, hlater⟩⟩
      rw [hafter, show (g.step a s).after.network = _ from hnetwork, Array.toList_push,
        List.append_assoc]
      rfl

/-- **Replies are posted under the base of their request** — in every run of requests, whatever was
requested and whatever the network answers. A request that is verified with the other key is answered
under the other base, if the settings name one, and what becomes of that reply is not felt; any other is
answered by the service proper, and a reply that does not arrive there is a failure. Outside of `dev` it
is always the latter. -/
theorem followups_by_base (hweb : OverridesWeb settings) (arrivals : List Arrival) (s : Session σ) :
    let g : Gateway σ := standard settings verify
    (∀ t ∈ g.steps arrivals s, g.Follows t)
      ∧ (∃ posts : List WebRequest,
        (g.after arrivals s).network.sent.toList = s.network.sent.toList ++ posts
        ∧ (∀ r ∈ posts, ∃ t ∈ g.steps arrivals s, ∃ base i, g.Admits t.arrival
          ∧ RepliesTo settings t.arrival base ∧ IsFollowup base i r)
        ∧ (settings.env ≠ "dev" → ∀ r ∈ posts, ∃ i, IsFollowup .standard i r))
      ∧ (settings.env ≠ "dev" → ∀ t ∈ g.steps arrivals s, t.after.network ≠ t.before.network →
        t.served.fault = t.before.network.take.1.failure?.map .delivery) := by
  intro g
  have hfollows : ∀ t ∈ g.steps arrivals s, g.Follows t := fun _ =>
    g.of_mem_steps (follows_step settings verify hweb)
  obtain ⟨posts, hsent, hposts⟩ := exists_posted settings verify hweb arrivals s
  refine ⟨hfollows, ⟨posts, hsent, hposts, fun henv r hr => ?_⟩, fun henv t ht hsends => ?_⟩
  · obtain ⟨_, _, base, i, _, hbase, hfollowup⟩ := hposts r hr
    exact ⟨i, hbase.eq_standard henv ▸ hfollowup⟩
  · cases hfollows t ht with
    | quiet hnetwork => exact absurd hnetwork hsends
    | reply _ _ hbase _ _ hfault =>
      rw [hfault, RepliesTo.eq_standard hbase henv]
      rfl

/-! ## A request for help that is answered elsewhere -/

/-- Settings that name another key and another base. -/
def localSettings : Settings where
  devPublicKey := some helpKey
  webhookOverride := some "http://localhost:8000//"

/-- A request for help, to be verified with the other key. -/
def localRequest : Arrival :=
  { helpRequest "/interactions" with
    headers := ("X-Darkroller-Use-Dev-Key", "1") :: (helpRequest "").headers }

/-- To whom it is answered. -/
def localRecipient : Recipient := ⟨.override "http://localhost:8000//", "a", "t"⟩

/-- Where it is answered. -/
def localWebhook : Url where
  scheme := "http".toList
  host := "localhost".toList
  port := some 8000
  path := "/webhooks/a/t".toList

theorem overridesWeb_localSettings : OverridesWeb localSettings := by
  have hlocalhost : (Base.override "http://localhost:8000//").IsWeb :=
    ⟨{ scheme := "http".toList
       host := "localhost".toList
       port := some 8000
       path := "//".toList }, by decide +kernel, by decide, by decide⟩
  rintro url hurl -
  exact Option.some.inj hurl ▸ hlocalhost

theorem isSigned_localRequest :
    (standard localSettings helpGateway.verify : Gateway Script).IsSigned localRequest := by
  set g : Gateway Script := standard localSettings helpGateway.verify
  have hsignature : localRequest.signature? = some helpSignature := by decide +kernel
  have htimestamp : localRequest.timestamp? = some "1" := by decide +kernel
  have hkey : keyOf g.settings localRequest = helpKey := by
    change keyOf localSettings localRequest = helpKey
    decide +kernel
  refine ⟨helpSignature, "1", Arrival.isHeaded_iff.2 ⟨hsignature, htimestamp⟩, verifies_iff.2 ?_⟩
  rw [hkey, verify_standard, show localRequest.body = helpBody from rfl]
  exact isAuthentic_help

/-- The help is told, and its reply delivered. -/
theorem exists_delivered_help (s : Session Script) :
    ∃ reply, Delivered localRecipient reply s.network
      (((Service.standard localSettings).dispatch true 0 helpAsked).runOn s) := by
  let service : Service Script := .standard localSettings
  let inv := service.invocation (helpAsked.asked "help" [])
  obtain ⟨text, htext⟩ : ∃ text, Bot.helpText inv.settings inv.known (Bot.topicOf none) = .ok text := by
    have hwrite : Numeral.write (Bot.helpLimit inv.settings) = .ok "100" :=
      Numeral.write_of_lt (Numeral.lt_pow_maxDigits (k := 3) (by decide) (by decide))
    rw [Bot.helpText, hwrite]
    exact ⟨_, rfl⟩
  let s' : Session Script :=
    { s with journal := s.journal.push (helpAsked.asked "help" []).initiated }
  have hhelp : (Bot.help inv none).runOn s' = (.ok { content := text, ephemeral := true },
      { s' with metrics := s'.metrics.increment "help.view" }) := by
    unfold Bot.help
    rw [runOn_bind_of_ok (runOn_count _ _), htext]
    rfl
  have hdelivered : Delivered localRecipient { content := text, ephemeral := true } s.network
      ((Bot.help inv none >>= deliver localRecipient).runOn s') := by
    rw [runOn_bind_of_ok hhelp]
    exact delivered_deliver _ _ { s' with metrics := s'.metrics.increment "help.view" }
  have htopic : (Named.get? [("topic", Json.null)] "topic").bind Json.str? = none := rfl
  have hrecipient : (Service.standard localSettings : Service Script).recipient true helpAsked
      = localRecipient := by
    decide +kernel
  rw [dispatch_helpAsked, hrecipient, service.serve_of_ok _ _ check_helpForm, handler_helpCommand,
    htopic]
  exact ⟨_, hdelivered.bracket 0⟩

theorem exists_send_localRecipient (reply : Reply) (n : Network) :
    ∃ r : WebRequest, r.method = "POST" ∧ r.url = "http://localhost:8000/webhooks/a/t"
      ∧ faultOf localRecipient.base (n.send (localRecipient.request reply)).1 = none
      ∧ (n.send (localRecipient.request reply)).2
        = { answers := n.answers.tail, sent := n.sent.push r } := by
  have hparse : Url.parse (localRecipient.request reply).url = .ok localWebhook := by
    change Url.parse localRecipient.url = .ok localWebhook
    decide +kernel
  have habsolute : localWebhook.isAbsolute := by decide
  have hhost : localWebhook.checkHost = .ok () := by decide +kernel
  have haddress : Network.addressOf (localRecipient.request reply) = .ok localWebhook := by
    rw [Network.addressOf_of_parse hparse habsolute rfl, hhost]
    rfl
  rw [Network.send_of_addressOf haddress]
  exact ⟨_, rfl, show localWebhook.render = _ by decide +kernel, faultOf_outcomeOf habsolute _ _, rfl⟩

/-- Help is asked for under the other key, and answered elsewhere. That the answer gets lost is not
felt. -/
theorem followups_by_base_elsewhere :
    let g : Gateway Script := standard localSettings helpGateway.verify
    let s : Session Script :=
      { table := { source := .ofList [] }, network := { answers := [.outage .timeout "late"] } }
    let t := g.step localRequest s
    OverridesWeb localSettings ∧ t ∈ g.steps [localRequest] s ∧ g.Follows t
      ∧ t.served.fault = none
      ∧ ∃ r, t.after.network.sent = #[r] ∧ r.method = "POST"
        ∧ r.url = "http://localhost:8000/webhooks/a/t" := by
  intro g s t
  have hmem : t ∈ g.steps [localRequest] s := List.mem_singleton_self t
  have hfollows := (followups_by_base localSettings helpGateway.verify overridesWeb_localSettings
    [localRequest] s).1 t hmem
  have hbody : Interaction.ofBytes localRequest.body = .ok helpAsked := by
    rw [show localRequest.body = (helpRequest "/interactions").body from rfl]
    exact ofBytes_helpRequest "/interactions"
  have hlocal : isLocal g.settings localRequest = true := by
    change isLocal localSettings localRequest = true
    decide +kernel
  obtain ⟨journal, hfault, hnetwork⟩ := g.exists_dispatched (s := s) ⟨rfl, .inl rfl⟩
    isSigned_localRequest hbody rfl
  rw [hlocal] at hfault hnetwork
  obtain ⟨reply, hdelivered⟩ := exists_delivered_help { s with journal }
  obtain ⟨r, hmethod, hurl, hfelt, hsent⟩ := exists_send_localRecipient reply s.network
  exact ⟨overridesWeb_localSettings, hmem, hfollows, (hfault.trans hdelivered.fault).trans hfelt, r,
    congrArg Network.sent ((hnetwork.trans hdelivered.network).trans hsent), hmethod, hurl⟩

end Gateway

end Discord

end DicePool
