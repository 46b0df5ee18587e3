import DicePool.Proofs.Bot.Askers
import DicePool.Proofs.Cli.Words
import DicePool.Proofs.Discord.Reach

/-!
# Proofs/Cli/Agreement — a roll on a command line and in a chat

A command line that seeds the dice and an interaction with the same options come to the same handler.
From there on a roll has one effect whoever asks (`Bot.exists_effect_roll`), so all that is left to
compare is what is made of a reply: one is printed, the other is sent. Main statement
`rollLine_agrees`. Only the seed is read from a text, which has a longest length, and beyond that the
two part ways (`not_agrees_long_seed`).
-/

namespace DicePool

/-! ## Printing -/

namespace Text

theorem dropSequences_cons {c : Char} (h : c ≠ '\x1b') (s : List Char) :
    dropSequences (c :: s) = c :: dropSequences s := by
  rw [dropSequences, List.length_cons, dropSequencesUpTo]
  · rfl
  · exact fun _ hc => absurd hc h

/-- **What comes before the first escape character is kept.** -/
theorem dropSequences_append {front : List Char} (h : '\x1b' ∉ front) (s : List Char) :
    dropSequences (front ++ s) = front ++ dropSequences s := by
  induction front with
  | nil => rfl
  | cons c front ih =>
    rw [List.mem_cons, not_or] at h
    rw [List.cons_append, dropSequences_cons (Ne.symm h.1), ih h.2, List.cons_append]

end Text

namespace Cli

theorem plainText_append {front : String} (h : '\x1b' ∉ front.toList) (s : String) :
    plainText (front ++ s) = front ++ plainText s := by
  rw [plainText, String.toList_append, Text.dropSequences_append h, String.ofList_append,
    String.ofList_toList]
  rfl

end Cli

/-! ## A roll that is served -/

namespace Discord

open BotM

variable {σ : Type}

/-- One request more is sent if there is a reply, and none if there is not. -/
def Recipient.Told (recipient : Recipient) (before after : Network) : Except Fault Reply → Prop
  | .error _ => after = before
  | .ok reply => ∃ url authorization,
    after.sent = before.sent.push { recipient.request reply with url, authorization }

/-- **Delivering what is answered sends it**, and fails only if there is no answer. -/
theorem exists_runOn_bind_deliver {recipient : Recipient} {x : BotM σ Reply} {s s' : Session σ}
    {outcome : Except Fault Reply} (h : x.runOn s = (outcome, s'))
    (haccepts : ∀ reply, s'.network.Accepts (recipient.request reply)) :
    ∃ network journal, recipient.Told s'.network network outcome ∧
      (x >>= deliver recipient).runOn s
        = (outcome.map fun _ => (), { s' with network, journal }) := by
  rw [runOn_bind, h]
  cases outcome with
  | error e => exact ⟨s'.network, s'.journal, rfl, rfl⟩
  | ok reply =>
    obtain ⟨url, authorization, journal, hdeliver⟩ := runOn_deliver_of_accepts (haccepts reply)
    exact ⟨_, journal, ⟨url, authorization, rfl⟩, hdeliver⟩

/-- A roll was served: it had its effect, and its reply was sent. -/
structure Service.Rolls (recipient : Recipient) (userId : String) (e : Bot.Effect σ) (s : Session σ)
    (run : Except Fault Unit × Session σ) : Prop where
  /-- The service fails as the roll does. -/
  outcome : run.1 = (e.upshot.reply (Bot.addressee userId)).map fun _ => ()
  /-- What the roll answers is sent, and nothing else. -/
  told : recipient.Told s.network run.2.network (e.upshot.reply (Bot.addressee userId))
  /-- The dice were rolled. -/
  table : run.2.table = e.table
  /-- What the roll counts is counted. -/
  counters : ∀ name, run.2.metrics.get name = s.metrics.get name + e.counted.count name

variable [Source σ] {settings : Settings} {options : RollOptions} {s : Session σ}

/-- **Serving a roll has its effect.** -/
theorem Service.rolls_serve {recipient : Recipient} {duration : Int} {a : Asked} {e : Bot.Effect σ}
    (hform : RollOptions.form.check a.options = .ok options.values)
    (he : e.IsOf settings options s.table)
    (haccepts : ∀ reply, s.network.Accepts (recipient.request reply)) :
    Service.Rolls recipient a.userId e s
      (((Service.standard settings).serve recipient duration a Bot.rollCommand).runOn s) := by
  obtain ⟨journal, hroll⟩ := he ((Service.standard settings : Service σ).invocation a)
    { s with journal := s.journal.push a.initiated } rfl rfl rfl
  obtain ⟨network, journal', htold, hdelivered⟩ := exists_runOn_bind_deliver hroll haccepts
  obtain ⟨journal'', hbracket⟩ := exists_runOn_bracket a duration
    (Bot.roll ((Service.standard settings : Service σ).invocation a) options
      >>= deliver recipient) s
  rw [Service.serve_of_ok _ recipient duration hform, handler_rollCommand,
    RollOptions.ofValues_values, hbracket, hdelivered]
  refine ⟨rfl, htold, rfl, fun name => ?_⟩
  exact (Metrics.get_observe ..).trans (Metrics.get_foldl_increment ..)

/-- **An interaction that rolls has the effect of the roll.** -/
theorem Service.rolls_dispatch {isLocal : Bool} {duration : Int} {i : Interaction}
    {given : Named Json} {e : Bot.Effect σ} (hname : i.data.bind (·.name) = some "roll")
    (hoptions : i.options = .ok given) (hgiven : options.GivenBy given)
    (hwords : options.wordsLength ≤ 100) (he : e.IsOf settings options s.table)
    (haccepts : ∀ reply, s.network.Accepts
      (((Service.standard settings : Service σ).recipient isLocal i).request reply)) :
    Service.Rolls ((Service.standard settings : Service σ).recipient isLocal i) i.userId e s
      (((Service.standard settings).dispatch isLocal duration i).runOn s) := by
  rw [Service.dispatch_eq_serve hname (find?_roll _) hoptions]
  exact Service.rolls_serve (a := i.asked "roll" given)
    (RollOptions.check_of_givenBy_of_le hgiven hwords) he haccepts

end Discord

/-! ## A roll on a command line -/

/-- With nothing around there are the default settings. -/
theorem Settings.load_nil : load [] {} = .ok {} := by
  have hmerged : merged [[], [], [], []] = [] := by decide +kernel
  have hload : load [] {} = ofSources [[], [], [], []] := rfl
  rw [hload, ofSources, hmerged, Form.check, Shape.checkFields_nil (by decide +kernel)]
  rfl

namespace Cli

variable {settings : Settings} {around : Environment} {entropy seed : Int} {pool : String}
  {written : Option String} {flags : List Modifier}

/-- The session in which a command line with a seed is run. -/
def seeded (settings : Settings) (around : Environment) (entropy seed : Int) : Session Twister where
  table := { source := .ofSeed seed, limit := settings.maxExplosions }
  entropy := entropy
  around := around

/-- **A command line that leads to a command runs its handler**, if its options are accepted. -/
theorem App.run_of_resolve {app : App (Handler Twister)} {known args : List String}
    {found : Found (Handler Twister)} {values : Named Json} {outcome : Except Fault Reply}
    {after : Session Twister} (hresolve : app.resolve args = .ok found)
    (hsettings : Settings.load [] around = .ok settings)
    (hform : found.command.form.check found.values = .ok values)
    (hrun : (found.command.handler (invocation found.command settings known) values).runOn
      { table := table settings found.seed entropy, entropy, around } = (outcome, after)) :
    app.run known around entropy args = (.ofReply outcome, some after) := by
  have hperform : (perform settings known found).run.run
      { table := table settings found.seed entropy, entropy, around } = (outcome, after) := by
    rw [perform, hform]
    exact hrun
  rw [App.run, hresolve]
  dsimp only
  rw [hsettings]
  dsimp only
  rw [hperform]

/-- **A command line that seeds the dice and rolls has the effect of the roll**, and prints what it
answers. -/
theorem run_rollLine {e : Bot.Effect Twister} (hflags : .tenAgain ∉ flags)
    (hseed : seed.natAbs < Nat.pow 10 Numeral.maxDigits) (hwords : (written.getD "").length ≤ 100)
    (hsettings : Settings.load [] around = .ok settings)
    (he : e.IsOf settings (rollOptions pool written flags)
      { source := .ofSeed seed, limit := settings.maxExplosions }) :
    ∃ journal, Cli.run Bot.commands around entropy (rollLine (toString seed) pool written flags)
      = .ok (.ofReply (e.upshot.reply anybody),
        some (e.after (seeded settings around entropy seed) journal)) := by
  obtain ⟨given, hresolve, hgiven⟩ := (@resolve_rollLine pool written _ hflags seed).1 hseed
  let c : Command (Handler Twister) := Bot.rollCommand
  let inv := invocation c settings (Named.names (Bot.commands : Registry (Handler Twister)))
  obtain ⟨journal, hroll⟩ := he inv (seeded settings around entropy seed) rfl rfl rfl
  have hhandler : (c.handler inv (rollOptions pool written flags).values).runOn
      (seeded settings around entropy seed)
        = (e.upshot.reply anybody, e.after (seeded settings around entropy seed) journal) := by
    rw [Discord.handler_rollCommand, RollOptions.ofValues_values]
    exact hroll
  refine ⟨journal, ?_⟩
  rw [Cli.run, build_commands]
  exact congrArg Except.ok (App.run_of_resolve hresolve hsettings
    (RollOptions.check_of_givenBy_of_le hgiven hwords) hhandler)

/-- A seed with too many digits is no use, and nothing is run. -/
theorem run_rollLine_of_long (hflags : .tenAgain ∉ flags)
    (hseed : Nat.pow 10 Numeral.maxDigits ≤ seed.natAbs) :
    ∃ text, Cli.run Bot.commands around entropy (rollLine (toString seed) pool written flags)
      = .ok ({ exitCode := 2, err := text }, none) := by
  obtain ⟨text, hresolve⟩ := (@resolve_rollLine pool written _ hflags seed).2 hseed
  refine ⟨plainText text, ?_⟩
  rw [Cli.run, build_commands]
  change Except.ok (App.run botApp _ around entropy _) = _
  rw [App.run, hresolve]
  rfl

/-! ## Agreement -/

/-- One request more was sent, with this text and this flag. -/
def Sends (sent : Array WebRequest) (content : String) (flag : Int) (n : Network) : Prop :=
  ∃ r : WebRequest, n.sent = sent.push r ∧ r.method = "POST" ∧
    r.body = some (.obj [("content", .str content), ("flags", .int flag)])

/-- A command line and an interaction end alike: the one prints what the other sends, up to control
sequences and to how the asker is addressed. -/
inductive Agrees (userId : String) (sent : Array WebRequest) (outcome : Outcome)
    (run : Except Fault Unit × Session Twister) : Prop
  /-- Both fail, and say nothing. -/
  | fault (e : Fault) (hprinted : outcome = .ofFailure (.command e)) (hrun : run.1 = .error e)
      (hsent : run.2.network.sent = sent)
  /-- Both tell the asker alone. -/
  | toAsker (content : String)
      (hprinted : outcome = { exitCode := 0, out := "(ephemeral) " ++ plainText content ++ "\n" })
      (hrun : run.1 = .ok ()) (hsent : Sends sent content 64 run.2.network)
  /-- Both tell all, the one of nobody in particular. -/
  | toAll (rest : String)
      (hprinted : outcome = { exitCode := 0, out := "You" ++ plainText rest ++ "\n" })
      (hrun : run.1 = .ok ()) (hsent : Sends sent ("<@" ++ userId ++ ">" ++ rest) 0 run.2.network)

/-- What agrees is no refusal of the command line itself. -/
theorem Agrees.exitCode_le_one {userId : String} {sent : Array WebRequest} {outcome : Outcome}
    {run : Except Fault Unit × Session Twister} (h : Agrees userId sent outcome run) :
    outcome.exitCode ≤ 1 := by
  cases h with
  | fault e hprinted => exact hprinted ▸ Nat.le_refl 1
  | toAsker content hprinted | toAll rest hprinted => exact hprinted ▸ Nat.zero_le 1

theorem printed_toAsker (content : String) : printed { content, ephemeral := true }
    = "(ephemeral) " ++ plainText content ++ "\n" := by
  rw [← plainText_append (by decide)]
  rfl

theorem printed_toAll (rest : String) :
    printed { content := anybody ++ rest } = "You" ++ plainText rest ++ "\n" := by
  rw [← plainText_append (by decide), printed, if_neg Bool.false_ne_true, String.empty_append]
  rfl

theorem addressee_of_ne {userId : String} (h : userId ≠ "") :
    Bot.addressee userId = "<@" ++ userId ++ ">" := by
  rw [Bot.addressee, Bot.mention, if_neg h, Option.getD_some]

theorem userId_ne (i : Discord.Interaction) : i.userId ≠ "" := by
  rw [Discord.Interaction.userId]
  cases h : Option.filter (· ≠ "") _ with
  | none => decide
  | some u => simpa using (Option.filter_eq_some_iff.1 h).2

/-- **What is printed for an effect and what is sent for it agree.** -/
theorem agrees_of_rolls {e : Bot.Effect Twister} {recipient : Discord.Recipient} {userId : String}
    {s : Session Twister} {run : Except Fault Unit × Session Twister} (hne : userId ≠ "")
    (h : Discord.Service.Rolls recipient userId e s run) :
    Agrees userId s.network.sent (.ofReply (e.upshot.reply anybody)) run := by
  obtain ⟨hrun, htold, -, -⟩ := h
  cases hupshot : e.upshot with
  | fault fault =>
    rw [hupshot] at hrun htold
    exact .fault fault rfl hrun (congrArg Network.sent htold)
  | toAsker content =>
    rw [hupshot] at hrun htold
    obtain ⟨url, authorization, hsent⟩ := htold
    refine .toAsker content ?_ hrun ⟨_, hsent, rfl, rfl⟩
    rw [← printed_toAsker]
    rfl
  | toAll rest =>
    rw [hupshot] at hrun htold
    obtain ⟨url, authorization, hsent⟩ := htold
    refine .toAll rest ?_ hrun ⟨_, hsent, rfl, ?_⟩
    · rw [← printed_toAll]
      rfl
    · rw [← addressee_of_ne hne]
      rfl

/-- **A command line that seeds the dice and rolls agrees with an interaction** that rolls with the
same options, the same settings and fresh dice of the same seed, and whose reply arrives. Both fail
alike, or each tells one message, to the asker alone or to all; the faces are the same, and so is what
is counted. A seed with more digits than are read is refused before anything is run. -/
theorem rollLine_agrees {i : Discord.Interaction} {given : Named Json} {isLocal : Bool}
    {duration : Int} {s : Session Twister} (hflags : .tenAgain ∉ flags)
    (hwords : (written.getD "").length ≤ 100) (hsettings : Settings.load [] around = .ok settings)
    (hname : i.data.bind (·.name) = some "roll") (hoptions : i.options = .ok given)
    (hgiven : (rollOptions pool written flags).GivenBy given)
    (htable : s.table = { source := .ofSeed seed, limit := settings.maxExplosions })
    (haccepts : ∀ reply, s.network.Accepts
      (((Discord.Service.standard settings : Discord.Service Twister).recipient isLocal i).request
        reply)) :
    let printed := Cli.run Bot.commands around entropy (rollLine (toString seed) pool written flags)
    let run := ((Discord.Service.standard settings).dispatch isLocal duration i).runOn s
    (seed.natAbs < Nat.pow 10 Numeral.maxDigits → ∃ outcome after,
      printed = .ok (outcome, some after) ∧ Agrees i.userId s.network.sent outcome run ∧
        run.2.table = after.table ∧
        ∀ name, run.2.metrics.get name - s.metrics.get name = after.metrics.get name) ∧
    (Nat.pow 10 Numeral.maxDigits ≤ seed.natAbs → ∃ text,
      printed = .ok ({ exitCode := 2, err := text }, none)) := by
  intro printed run
  refine ⟨fun hseed => ?_, run_rollLine_of_long hflags⟩
  obtain ⟨e, he⟩ := Bot.exists_effect_roll settings (rollOptions pool written flags)
    { source := Twister.ofSeed seed, limit := settings.maxExplosions }
  obtain ⟨journal, hprinted⟩ :=
    @run_rollLine _ _ entropy _ _ _ _ e hflags hseed hwords hsettings he
  have hrolls : Discord.Service.Rolls _ i.userId e s run :=
    Discord.Service.rolls_dispatch hname hoptions hgiven hwords (htable ▸ he) haccepts
  refine ⟨_, _, hprinted, agrees_of_rolls (userId_ne i) hrolls, hrolls.table, fun name => ?_⟩
  have hcounted : (e.after (seeded settings around entropy seed) journal).metrics.get name
      = e.counted.count name := (Metrics.get_foldl_increment ..).trans (Int.zero_add _)
  rw [hcounted, hrolls.counters]
  omega

/-- Where no answers are prepared, replies arrive. -/
theorem accepts_request (reply : Reply) :
    ({} : Network).Accepts ((⟨.standard, "a", "t"⟩ : Discord.Recipient).request reply) := by
  have haccepted : ({} : Network).Accepts
      ((⟨.standard, "a", "t"⟩ : Discord.Recipient).request { content := "" }) :=
    ⟨⟨204, ""⟩, by decide +kernel, by decide⟩
  exact haccepted.congr rfl rfl

/-- Five dice with rote quality and the seed seven. -/
theorem rollLine_agrees_seed_seven :
    let given : Named Json := [("pool", .str "5"), ("rote", .bool true)]
    let i : Discord.Interaction := {
      id := "1", kind := 2, token := "t", applicationId := "a"
      data := some ⟨some "roll", some [[("name", .str "pool"), ("value", .str "5")],
        [("name", .str "rote"), ("value", .bool true)]]⟩
      guildId := none, channelId := none, member := none, user := some ⟨some "u1"⟩ }
    let s : Session Twister := { table := { source := .ofSeed 7, limit := 10000 } }
    let printed := Cli.run Bot.commands {} 0 ["--seed", "7", "roll", "--pool", "5", "--rote"]
    let run := ((Discord.Service.standard {}).dispatch false 0 i).runOn s
    Settings.load [] {} = .ok {} ∧ i.options = .ok given ∧
      (rollOptions "5" none [.rote]).GivenBy given ∧
      (∀ reply, s.network.Accepts
        (((Discord.Service.standard {} : Discord.Service Twister).recipient false i).request reply)) ∧
      ∃ outcome after, printed = .ok (outcome, some after) ∧ Agrees "u1" #[] outcome run ∧
        run.2.table = after.table ∧
        ∀ name, run.2.metrics.get name - s.metrics.get name = after.metrics.get name := by
  intro given i s printed run
  have hgiven : (rollOptions "5" none [.rote]).GivenBy given := ⟨rfl, rfl, rfl, rfl, rfl, rfl⟩
  refine ⟨Settings.load_nil, rfl, hgiven, accepts_request, ?_⟩
  exact (@rollLine_agrees {} {} 0 7 "5" none [.rote] i given false 0 s (by decide) (by decide)
    Settings.load_nil rfl rfl hgiven rfl accepts_request).1 (by decide +kernel)

/-- **A seed of more digits than are read tells the two apart**: the command line is refused as a whole,
which no interaction is for its dice. -/
theorem not_agrees_long_seed :
    let seed : Int := Nat.pow 10 Numeral.maxDigits
    let given : Named Json := [("pool", .str "5")]
    let i : Discord.Interaction := {
      id := "1", kind := 2, token := "t", applicationId := "a"
      data := some ⟨some "roll", some [[("name", .str "pool"), ("value", .str "5")]]⟩
      guildId := none, channelId := none, member := none, user := some ⟨some "u1"⟩ }
    let s : Session Twister := { table := { source := .ofSeed seed, limit := 10000 } }
    let printed := Cli.run Bot.commands {} 0 (rollLine (toString seed) "5" none [])
    let run := ((Discord.Service.standard {}).dispatch false 0 i).runOn s
    Settings.load [] {} = .ok {} ∧ i.options = .ok given ∧
      (rollOptions "5" none []).GivenBy given ∧
      (∀ reply, s.network.Accepts
        (((Discord.Service.standard {} : Discord.Service Twister).recipient false i).request reply)) ∧
      ¬∃ outcome after, printed = .ok (outcome, after) ∧ Agrees "u1" #[] outcome run := by
  intro seed given i s printed run
  have hgiven : (rollOptions "5" none []).GivenBy given := ⟨rfl, rfl, rfl, rfl, rfl, rfl⟩
  refine ⟨Settings.load_nil, rfl, hgiven, accepts_request, ?_⟩
  rintro ⟨outcome, after, hprinted, hagrees⟩
  have hlong : Nat.pow 10 Numeral.maxDigits ≤ seed.natAbs := le_of_eq (Int.natAbs_natCast _).symm
  obtain ⟨text, hrefused⟩ : ∃ text, printed = .ok ({ exitCode := 2, err := text }, none) :=
    run_rollLine_of_long (by decide) hlong
  obtain ⟨rfl, -⟩ := Prod.mk.inj (Except.ok.inj (hrefused.symm.trans hprinted))
  exact absurd hagrees.exitCode_le_one (Nat.not_succ_le_self 1)

end Cli

end DicePool
