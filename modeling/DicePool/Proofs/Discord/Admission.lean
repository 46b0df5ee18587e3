import DicePool.Discord.Gateway
import DicePool.Proofs.Discord.Reach

/-!
# Proofs/Discord/Admission — which requests have effects

A request is admitted (`Gateway.Admits`) if it is posted to the interactions, signed under the key that
is selected for it, and asks for a command. Serving any other leaves the session untouched, the journal
apart (`Session.Untouched`). What one request may do is said in `Gateway.Guards` and proved in
`guards_step`, and from it what a whole run may do: main statement `touched_only_by_admitted`.
-/

namespace DicePool

variable {σ : Type}

/-- Nothing was counted, drawn or sent between two sessions; events may have been reported. -/
structure Session.Untouched (s s' : Session σ) : Prop where
  metrics : s'.metrics = s.metrics
  table : s'.table = s.table
  shared : s'.shared = s.shared
  network : s'.network = s.network
  entropy : s'.entropy = s.entropy
  around : s'.around = s.around

namespace Session.Untouched

variable {s s' s'' : Session σ}

protected theorem refl (s : Session σ) : s.Untouched s := ⟨rfl, rfl, rfl, rfl, rfl, rfl⟩

/-- Reports are no touch. -/
theorem journal (h : s.Untouched s') (journal : Array Event) : s.Untouched { s' with journal } :=
  ⟨h.metrics, h.table, h.shared, h.network, h.entropy, h.around⟩

theorem trans (h : s.Untouched s') (h' : s'.Untouched s'') : s.Untouched s'' where
  metrics := h'.metrics.trans h.metrics
  table := h'.table.trans h.table
  shared := h'.shared.trans h.shared
  network := h'.network.trans h.network
  entropy := h'.entropy.trans h.entropy
  around := h'.around.trans h.around

end Session.Untouched

namespace Discord

open BotM

/-! ## Signed requests -/

theorem Interaction.asksCommand_iff {i : Interaction} :
    i.asksCommand = true ↔ i.kind = 2 ∧ ∃ data name, i.data = some data ∧ data.name = some name := by
  have hname : (i.data.bind (·.name)).isSome = true
      ↔ ∃ data name, i.data = some data ∧ data.name = some name := by
    rcases i.data with _ | data <;> simp [Option.isSome_iff_exists]
  simp only [asksCommand, Bool.and_eq_true, beq_iff_eq, hname]

namespace Arrival

/-- A request is posted to the interactions; a line feed at the end of the path does not count. -/
structure IsPosted (a : Arrival) : Prop where
  method : a.method = "POST"
  path : a.path = "/interactions" ∨ a.path = "/interactions\n"

/-- A request has the two headers of a signature, and neither is empty. -/
structure IsHeaded (a : Arrival) (signature timestamp : String) : Prop where
  signature : a.header? "X-Signature-Ed25519" = some signature ∧ signature ≠ ""
  timestamp : a.header? "X-Signature-Timestamp" = some timestamp ∧ timestamp ≠ ""

variable {a : Arrival}

theorem isHeaded_iff {signature timestamp : String} :
    a.IsHeaded signature timestamp
      ↔ a.signature? = some signature ∧ a.timestamp? = some timestamp := by
  have hheaders : a.signature? = some signature ∧ a.timestamp? = some timestamp
      ↔ (a.header? "X-Signature-Ed25519" = some signature ∧ signature ≠ "")
        ∧ (a.header? "X-Signature-Timestamp" = some timestamp ∧ timestamp ≠ "") := by
    simp [signature?, timestamp?, Option.filter_eq_some_iff]
  rw [hheaders]
  exact ⟨fun h => ⟨h.signature, h.timestamp⟩, fun h => ⟨h.1, h.2⟩⟩

end Arrival

/-- The key that is selected for a request: the other key if the request asks for it, the environment
is `dev` and there is one; and else the key proper. -/
inductive Selects (settings : Settings) (a : Arrival) : String → Prop where
  | other {key : String} (hasked : a.header? "X-Darkroller-Use-Dev-Key" = some "1")
      (henv : settings.env = "dev") (hkey : settings.devPublicKey = some key) (hne : key ≠ "") :
      Selects settings a key
  | proper (h : ¬(a.header? "X-Darkroller-Use-Dev-Key" = some "1" ∧ settings.env = "dev"
      ∧ ∃ key, settings.devPublicKey = some key ∧ key ≠ "")) : Selects settings a settings.publicKey

theorem isLocal_iff {settings : Settings} {a : Arrival} :
    isLocal settings a = true ↔ a.header? "X-Darkroller-Use-Dev-Key" = some "1"
      ∧ settings.env = "dev" ∧ ∃ key, settings.devPublicKey = some key ∧ key ≠ "" := by
  simp [isLocal, and_assoc, Option.any_eq_true]

/-- **One key is selected for each request.** -/
theorem selects_iff {settings : Settings} {a : Arrival} {key : String} :
    Selects settings a key ↔ keyOf settings a = key := by
  unfold keyOf
  cases hlocal : isLocal settings a with
  | true =>
    obtain ⟨hasked, henv, other, hother, hne⟩ := isLocal_iff.1 hlocal
    rw [if_pos rfl, hother, Option.getD_some]
    constructor
    · rintro (⟨-, -, hkey, -⟩ | hproper)
      · exact Option.some.inj (hother.symm.trans hkey)
      · exact absurd ⟨hasked, henv, other, hother, hne⟩ hproper
    · rintro rfl
      exact .other hasked henv hother hne
  | false =>
    have hproper := mt isLocal_iff.2 (Bool.eq_false_iff.1 hlocal)
    rw [if_neg Bool.false_ne_true]
    constructor
    · rintro (⟨hasked, henv, hkey, hne⟩ | -)
      · exact absurd ⟨hasked, henv, key, hkey, hne⟩ hproper
      · rfl
    · rintro rfl
      exact .proper hproper

namespace Gateway

variable (g : Gateway σ)

/-- A signature is valid for a request with a timestamp: key and signature are bytes in hexadecimal, and
the timestamp and then the body are what is signed. An empty key verifies nothing. -/
def Verifies (a : Arrival) (signature timestamp : String) : Prop :=
  ∃ key, Selects g.settings a key ∧ key ≠ ""
    ∧ ∃ keyBytes signatureBytes, Text.hexBytes? key.toList = some keyBytes
      ∧ Text.hexBytes? signature.toList = some signatureBytes
      ∧ g.verify keyBytes (Text.Utf8.encode timestamp ++ a.body) signatureBytes = true

/-- A request has a valid signature. -/
def IsSigned (a : Arrival) : Prop :=
  ∃ signature timestamp, a.IsHeaded signature timestamp ∧ g.Verifies a signature timestamp

/-- A request is admitted: it is posted to the interactions, signed, and asks for a command by name. -/
structure Admits (a : Arrival) : Prop where
  posted : a.IsPosted
  signed : g.IsSigned a
  asks : ∃ i data name, Interaction.ofBytes a.body = .ok i ∧ i.kind = 2 ∧ i.data = some data
    ∧ data.name = some name

variable {g} {a : Arrival}

theorem verifies_iff {signature timestamp : String} :
    g.Verifies a signature timestamp
      ↔ isAuthentic g.verify (keyOf g.settings a) timestamp a.body signature = true := by
  unfold Verifies isAuthentic
  simp only [selects_iff, exists_eq_left']
  split
  next hempty => simp [hempty]
  next hne =>
    cases Text.hexBytes? (keyOf g.settings a).toList <;> cases Text.hexBytes? signature.toList <;>
      simp [hne]

/-! ## Serving one request -/

/-- **The interactions are one route**, under a path that may end in a line feed. -/
theorem route?_eq_interactions_iff {path : String} :
    route? path = some .interactions ↔ path = "/interactions" ∨ path = "/interactions\n" := by
  constructor
  · intro h
    unfold route? at h
    dsimp only at h
    split at h
    next hpath =>
      split at hpath
      next rest hrest =>
        right
        rw [← String.toList_inj, ← List.reverse_inj, hrest, ← List.reverse_reverse rest,
          ← String.toList_ofList (l := rest.reverse), hpath]
        rfl
      next => exact .inl hpath
    all_goals cases h
  · rintro (rfl | rfl) <;> decide

variable (g) (s : Session σ)

/-- Serving a request is serving its route, and a report. -/
theorem exists_run_handle (a : Arrival) :
    ∃ journal, (g.handle a).run s =
      let routed := (g.serveRoute a).run s
      ({ routed.1 with answered := sentTo a.method routed.1.answered }, { routed.2 with journal }) :=
  ⟨_, rfl⟩

/-- **A request that is not posted to the interactions touches nothing.** -/
theorem untouched_of_not_posted (h : ¬a.IsPosted) :
    s.Untouched ((g.serveRoute a).run s).2 := by
  unfold serveRoute
  split
  next => exact .refl s
  next route hroute =>
    split
    next hmethod =>
      cases route with
      | interactions =>
        exact absurd ⟨List.mem_singleton.1 hmethod, route?_eq_interactions_iff.1 hroute⟩ h
      | health | counters | description | page => exact .refl s
    next => exact .refl s

/-- **A request that is posted to the interactions is served there.** -/
theorem run_serveRoute_of_posted (h : a.IsPosted) :
    (g.serveRoute a).run s = (g.interactions a).run s := by
  unfold serveRoute
  rw [route?_eq_interactions_iff.2 h.path]
  dsimp only
  rw [if_pos (by rw [h.method]; decide)]
  rfl

/-- **Without both headers nothing is served.** -/
theorem run_interactions_of_not_headed (h : ¬∃ signature timestamp, a.IsHeaded signature timestamp) :
    ∃ journal, (g.interactions a).run s
      = ({ answered := refusal 401 "missing signature headers" }, { s with journal }) := by
  unfold interactions
  cases hsignature : a.signature? with
  | none => exact ⟨_, rfl⟩
  | some signature =>
    cases htimestamp : a.timestamp? with
    | none => exact ⟨_, rfl⟩
    | some timestamp =>
      exact absurd ⟨signature, timestamp, Arrival.isHeaded_iff.2 ⟨hsignature, htimestamp⟩⟩ h

/-- **With both headers it is the signature that decides**: the body is served, or nothing is. -/
theorem run_interactions_of_headed {signature timestamp : String}
    (h : a.IsHeaded signature timestamp) :
    ∃ journal journal', (g.interactions a).run s
      = if isAuthentic g.verify (keyOf g.settings a) timestamp a.body signature then
          (g.interaction (isLocal g.settings a) a.body).run { s with journal }
        else ({ answered := refusal 401 "bad signature" }, { s with journal := journal' }) := by
  obtain ⟨hsignature, htimestamp⟩ := Arrival.isHeaded_iff.1 h
  unfold interactions
  rw [hsignature, htimestamp]
  dsimp only
  split
  next => exact ⟨_, s.journal, rfl⟩
  next => exact ⟨s.journal, _, rfl⟩

variable (isLocal : Bool) {body : List UInt8}

/-- **A body that is no interaction is refused.** -/
theorem run_interaction_of_error {problems : List Problem}
    (h : Interaction.ofBytes body = .error problems) :
    ∃ journal, (g.interaction isLocal body).run s
      = ({ answered := refusal 400 "invalid interaction payload" }, { s with journal }) := by
  unfold interaction
  rw [h]
  exact ⟨_, rfl⟩

/-- **An interaction that asks for no command is only answered.** -/
theorem run_interaction_of_not_asks {i : Interaction} (h : Interaction.ofBytes body = .ok i)
    (hasks : ¬i.asksCommand) :
    ((g.interaction isLocal body).run s).2 = s := by
  unfold interaction
  rw [h]
  dsimp only
  by_cases hkind : i.kind = 1
  · rw [if_pos hkind]
    rfl
  · rw [if_neg hkind, if_neg hasks]
    rfl

/-- **An interaction that asks for a command is dispatched**, and the promise of a reply is answered. -/
theorem run_interaction_of_asks {i : Interaction} (h : Interaction.ofBytes body = .ok i)
    (hasks : i.asksCommand) :
    (g.interaction isLocal body).run s
      = let run := (g.dispatch isLocal 0 i).runOn s
        ({ answered := ⟨200, .obj [("type", .int 5)]⟩
           fault := match run.1 with | .ok _ => none | .error e => some e }, run.2) := by
  have hkind : i.kind ≠ 1 := by
    rw [(Interaction.asksCommand_iff.1 hasks).1]
    decide
  unfold interaction
  rw [h]
  dsimp only
  rw [if_neg hkind, if_pos hasks, StateT.run_bind]
  rcases hrun : (g.dispatch isLocal 0 i).runOn s with ⟨_ | _, s'⟩ <;>
    · rw [show (g.dispatch isLocal 0 i).run.run s = _ from hrun]
      rfl

end Gateway

/-! ## Runs -/

/-- A request that was served. -/
structure Step (σ : Type) where
  /-- The request. -/
  arrival : Arrival
  /-- The session before. -/
  before : Session σ
  /-- What became of the request. -/
  served : Served
  /-- The session after. -/
  after : Session σ

namespace Gateway

/-- What one request may do. -/
structure Guards (g : Gateway σ) (t : Step σ) : Prop where
  /-- It has effects only if it is admitted. -/
  admits : ¬t.before.Untouched t.after → g.Admits t.arrival
  /-- Without both headers it is refused. -/
  missing : t.arrival.IsPosted →
    (¬∃ signature timestamp, t.arrival.IsHeaded signature timestamp) →
    t.served.answered = refusal 401 "missing signature headers" ∧ t.before.Untouched t.after
  /-- With headers that do not make a valid signature it is refused. -/
  bad : t.arrival.IsPosted → ∀ signature timestamp, t.arrival.IsHeaded signature timestamp →
    ¬g.Verifies t.arrival signature timestamp →
    t.served.answered = refusal 401 "bad signature" ∧ t.before.Untouched t.after
  /-- With a valid signature of what is no interaction it is refused. -/
  invalid : t.arrival.IsPosted → g.IsSigned t.arrival →
    ∀ problems, Interaction.ofBytes t.arrival.body = .error problems →
    t.served.answered = refusal 400 "invalid interaction payload" ∧ t.before.Untouched t.after
  /-- If it is admitted, its command is dispatched, and has just the effects that it has. -/
  dispatched : g.Admits t.arrival → ∃ i journal, Interaction.ofBytes t.arrival.body = .ok i ∧
    let run := (g.dispatch (isLocal g.settings t.arrival) 0 i).runOn { t.before with journal }
    t.served.answered = ⟨200, .obj [("type", .int 5)]⟩ ∧ run.2.Untouched t.after

variable (g : Gateway σ)

/-- Serves a request. -/
def step (a : Arrival) (s : Session σ) : Step σ :=
  ⟨a, s, ((g.handle a).run s).1, ((g.handle a).run s).2⟩

/-- Serves requests one after the other. -/
def steps : List Arrival → Session σ → List (Step σ)
  | [], _ => []
  | a :: arrivals, s => g.step a s :: steps arrivals (g.step a s).after

/-- The session once requests are served. -/
def after (arrivals : List Arrival) (s : Session σ) : Session σ :=
  arrivals.foldl (fun s a => (g.step a s).after) s

variable {a : Arrival} {s : Session σ}

/-- A request that is posted to the interactions is answered as it is served there. -/
theorem step_of_posted (h : a.IsPosted) : ∃ journal, g.step a s
    = ⟨a, s, ((g.interactions a).run s).1, { ((g.interactions a).run s).2 with journal }⟩ := by
  obtain ⟨journal, hhandle⟩ := g.exists_run_handle s a
  refine ⟨journal, ?_⟩
  rw [step, hhandle, g.run_serveRoute_of_posted s h, h.method]
  rfl

theorem step_of_not_headed (hposted : a.IsPosted)
    (h : ¬∃ signature timestamp, a.IsHeaded signature timestamp) :
    (g.step a s).served.answered = refusal 401 "missing signature headers"
      ∧ s.Untouched (g.step a s).after := by
  obtain ⟨journal, hstep⟩ := g.step_of_posted hposted
  obtain ⟨_, hrun⟩ := g.run_interactions_of_not_headed s h
  rw [hstep, hrun]
  exact ⟨rfl, .journal (.journal (.refl s) _) _⟩

theorem step_of_not_verifies {signature timestamp : String} (hposted : a.IsPosted)
    (hheaded : a.IsHeaded signature timestamp) (h : ¬g.Verifies a signature timestamp) :
    (g.step a s).served.answered = refusal 401 "bad signature"
      ∧ s.Untouched (g.step a s).after := by
  obtain ⟨journal, hstep⟩ := g.step_of_posted hposted
  obtain ⟨_, _, hrun⟩ := g.run_interactions_of_headed s hheaded
  rw [if_neg (mt verifies_iff.2 h)] at hrun
  rw [hstep, hrun]
  exact ⟨rfl, .journal (.journal (.refl s) _) _⟩

/-- A signed request is answered by what its body is. -/
theorem step_of_signed (hposted : a.IsPosted) (h : g.IsSigned a) : ∃ journal journal',
    let run := (g.interaction (isLocal g.settings a) a.body).run { s with journal }
    g.step a s = ⟨a, s, run.1, { run.2 with journal := journal' }⟩ := by
  obtain ⟨signature, timestamp, hheaded, hverifies⟩ := h
  obtain ⟨journal', hstep⟩ := g.step_of_posted hposted
  obtain ⟨journal, _, hrun⟩ := g.run_interactions_of_headed s hheaded
  rw [if_pos (verifies_iff.1 hverifies)] at hrun
  exact ⟨journal, journal', by rw [hstep, hrun]⟩

theorem step_of_error {problems : List Problem} (hposted : a.IsPosted) (hsigned : g.IsSigned a)
    (h : Interaction.ofBytes a.body = .error problems) :
    (g.step a s).served.answered = refusal 400 "invalid interaction payload"
      ∧ s.Untouched (g.step a s).after := by
  obtain ⟨journal, journal', hstep⟩ := g.step_of_signed hposted hsigned
  obtain ⟨_, hrun⟩ := g.run_interaction_of_error { s with journal } (isLocal g.settings a) h
  rw [hstep, hrun]
  exact ⟨rfl, .journal (.journal (.refl s) _) _⟩

theorem untouched_of_not_asks {i : Interaction} (hposted : a.IsPosted) (hsigned : g.IsSigned a)
    (hbody : Interaction.ofBytes a.body = .ok i) (h : ¬i.asksCommand) :
    s.Untouched (g.step a s).after := by
  obtain ⟨journal, journal', hstep⟩ := g.step_of_signed hposted hsigned
  rw [hstep, g.run_interaction_of_not_asks { s with journal } (isLocal g.settings a) hbody h]
  exact .journal (.journal (.refl s) _) _

/-- A request that asks for a command is answered at once, and fails as the command does. -/
theorem exists_step_of_asks {i : Interaction} (hposted : a.IsPosted) (hsigned : g.IsSigned a)
    (hbody : Interaction.ofBytes a.body = .ok i) (h : i.asksCommand) :
    ∃ journal journal',
      let run := (g.dispatch (isLocal g.settings a) 0 i).runOn { s with journal }
      g.step a s = ⟨a, s,
        { answered := ⟨200, .obj [("type", .int 5)]⟩
          fault := match run.1 with | .ok _ => none | .error e => some e },
        { run.2 with journal := journal' }⟩ := by
  obtain ⟨journal, journal', hstep⟩ := g.step_of_signed hposted hsigned
  refine ⟨journal, journal', ?_⟩
  rw [hstep, g.run_interaction_of_asks { s with journal } (isLocal g.settings a) hbody h]

theorem step_of_asks {i : Interaction} (hposted : a.IsPosted) (hsigned : g.IsSigned a)
    (hbody : Interaction.ofBytes a.body = .ok i) (h : i.asksCommand) :
    ∃ journal, let run := (g.dispatch (isLocal g.settings a) 0 i).runOn { s with journal }
      (g.step a s).served.answered = ⟨200, .obj [("type", .int 5)]⟩
        ∧ run.2.Untouched (g.step a s).after := by
  obtain ⟨journal, journal', hstep⟩ := g.exists_step_of_asks (s := s) hposted hsigned hbody h
  refine ⟨journal, ?_⟩
  rw [hstep]
  exact ⟨rfl, .journal (.refl _) _⟩

/-- **A request that is not admitted touches nothing.** -/
theorem untouched_of_not_admits (h : ¬g.Admits a) : s.Untouched (g.step a s).after := by
  by_cases hposted : a.IsPosted
  · by_cases hheaded : ∃ signature timestamp, a.IsHeaded signature timestamp
    · obtain ⟨signature, timestamp, hheaded⟩ := hheaded
      by_cases hverifies : g.Verifies a signature timestamp
      · have hsigned : g.IsSigned a := ⟨signature, timestamp, hheaded, hverifies⟩
        cases hbody : Interaction.ofBytes a.body with
        | error problems => exact (g.step_of_error hposted hsigned hbody).2
        | ok i =>
          refine g.untouched_of_not_asks hposted hsigned hbody fun hasks => h ?_
          obtain ⟨hkind, data, name, hdata, hname⟩ := Interaction.asksCommand_iff.1 hasks
          exact ⟨hposted, hsigned, i, data, name, hbody, hkind, hdata, hname⟩
      · exact (g.step_of_not_verifies hposted hheaded hverifies).2
    · exact (g.step_of_not_headed hposted hheaded).2
  · obtain ⟨journal, hhandle⟩ := g.exists_run_handle s a
    rw [step, hhandle]
    exact (g.untouched_of_not_posted s hposted).journal _

/-- **Serving a request does what it may.** -/
theorem guards_step (a : Arrival) (s : Session σ) : g.Guards (g.step a s) where
  admits htouched := by_contra fun h => htouched (g.untouched_of_not_admits h)
  missing hposted h := g.step_of_not_headed hposted h
  bad hposted _ _ hheaded h := g.step_of_not_verifies hposted hheaded h
  invalid hposted hsigned _ h := g.step_of_error hposted hsigned h
  dispatched h := by
    obtain ⟨i, data, name, hbody, hkind, hdata, hname⟩ := h.asks
    obtain ⟨journal, hstep⟩ := g.step_of_asks (s := s) h.posted h.signed hbody
      (Interaction.asksCommand_iff.2 ⟨hkind, data, name, hdata, hname⟩)
    exact ⟨i, journal, hbody, hstep⟩

/-- What holds of one request, whatever it is and whenever it is served, holds of all in a run. -/
theorem of_mem_steps {p : Step σ → Prop} (hp : ∀ a s, p (g.step a s)) {arrivals : List Arrival}
    {s : Session σ} {t : Step σ} (h : t ∈ g.steps arrivals s) : p t := by
  induction arrivals generalizing s with
  | nil => cases h
  | cons a arrivals ih =>
    rcases List.mem_cons.1 h with rfl | hrest
    · exact hp a s
    · exact ih hrest

theorem guards_of_mem_steps {arrivals : List Arrival} {s : Session σ} {t : Step σ}
    (h : t ∈ g.steps arrivals s) : g.Guards t :=
  g.of_mem_steps g.guards_step h

/-- **Requests that are not admitted touch nothing**, however many they are. -/
theorem untouched_after {arrivals : List Arrival} {s : Session σ}
    (h : ∀ a ∈ arrivals, ¬g.Admits a) : s.Untouched (g.after arrivals s) := by
  induction arrivals generalizing s with
  | nil => exact .refl s
  | cons a arrivals ih =>
    obtain ⟨hfirst, hrest⟩ := List.forall_mem_cons.1 h
    exact (g.untouched_of_not_admits hfirst).trans (ih hrest)

/-- **Only admitted requests have effects** — in every run, whatever was requested, with any commands
and settings and any way to verify signatures. Each request does what it may, and a run of requests of
which none is admitted leaves everything as it was. -/
theorem touched_only_by_admitted (arrivals : List Arrival) (s : Session σ) :
    (∀ t ∈ g.steps arrivals s, g.Guards t)
      ∧ ((∀ a ∈ arrivals, ¬g.Admits a) → s.Untouched (g.after arrivals s)) :=
  ⟨fun _ => g.guards_of_mem_steps, g.untouched_after⟩


/-! ## A request for help

A key and a signature that belong to each other, and a gateway that knows no others. -/

/-- Who asks for help. -/
def helpAsked : Interaction where
  id := "1"
  kind := 2
  token := "t"
  applicationId := "a"
  data := some ⟨some "help", none⟩
  guildId := none
  channelId := none
  member := none
  user := none

/-- The key of those who ask for help. -/
def helpKey : String := "03a107bff3ce10be1d70dd18e74bc09967e4d6309ba50d5f1ddc8664125531b8"

/-- Their signature. -/
def helpSignature : String :=
  "04cf1c2b7becb3e9131ef35837ee6e6703788e8b09cc3aebcc5dbb76f8af1ba9"
    ++ "29cf26710c24f782e4fecd457c823e6399aea847a58515dc266a719a9ed1fd0a"

/-- What they write. -/
def helpText : String :=
  "\x7b\"id\":\"1\",\"type\":2,\"token\":\"t\",\"application_id\":\"a\","
    ++ "\"data\":\x7b\"name\":\"help\"\x7d\x7d"

/-- Its bytes; all of it is ASCII. -/
def helpBody : List UInt8 := helpText.toList.map (.ofNat ·.toNat)

/-- A request for help, signed, as it is posted to a path. -/
def helpRequest (path : String) : Arrival where
  method := "POST"
  path
  headers := [("X-Signature-Ed25519", helpSignature), ("X-Signature-Timestamp", "1")]
  body := helpBody

/-- A gateway with the commands that there are, which knows no other key and signature. -/
def helpGateway : Gateway Script where
  toService := .standard { publicKey := helpKey }
  verify key message signature :=
    Text.hexBytes? helpKey.toList = some key && Text.hexBytes? helpSignature.toList = some signature
      && message = Text.Utf8.encode "1" ++ helpBody

set_option maxRecDepth 2000 in
theorem ofBytes_helpRequest (path : String) :
    Interaction.ofBytes (helpRequest path).body = .ok helpAsked := by
  let fields : Named Json := [("id", .str "1"), ("type", .int 2), ("token", .str "t"),
    ("application_id", .str "a"), ("data", .obj [("name", .str "help")])]
  have htext : Text.Utf8.decode? helpBody = some helpText.toList := by
    decide +kernel
  have hjson : Json.ofChars Interaction.limits helpText.toList = .ok (.obj fields) := by rfl
  have hchecked : Interaction.ofJson (.obj fields) = .ok helpAsked := by
    simp [fields, Interaction.ofJson, Interaction.shape, Interaction.optionalText, Shape.check,
      Shape.checkFields, checkText, checkWhole, wholeOfValue, both, inside, Except.mapError,
      Named.get?_cons, bind, Except.bind, pure, Except.pure]
    rfl
  rw [Interaction.ofBytes, show (helpRequest path).body = helpBody from rfl, htext, Option.map_some,
    hjson]
  exact hchecked

theorem isAuthentic_help :
    isAuthentic helpGateway.verify helpKey "1" helpBody helpSignature = true := by
  decide +kernel

theorem isSigned_helpRequest (path : String) : helpGateway.IsSigned (helpRequest path) := by
  have hsignature : (helpRequest "").signature? = some helpSignature := by decide +kernel
  have htimestamp : (helpRequest "").timestamp? = some "1" := by decide +kernel
  have hkey : keyOf helpGateway.settings (helpRequest "") = helpKey := by decide +kernel
  -- The path is not signed.
  exact ⟨helpSignature, "1", Arrival.isHeaded_iff.2 ⟨hsignature, htimestamp⟩,
    verifies_iff.2 (hkey.symm ▸ isAuthentic_help)⟩

theorem check_helpForm : Bot.helpForm.check [] = .ok [("topic", .null)] := by
  rw [Form.check, Shape.checkFields.eq_def]
  simp [Bot.helpForm, Form.fields, Shape.checkFields, both, inside, Except.mapError]

theorem dispatch_helpAsked (settings : Settings) (isLocal : Bool) :
    let service : Service Script := .standard settings
    service.dispatch isLocal 0 helpAsked
      = service.serve (service.recipient isLocal helpAsked) 0 (helpAsked.asked "help" [])
        Bot.helpCommand :=
  Service.dispatch_eq_serve rfl rfl rfl

/-- **The request for help is felt**, at either path. -/
theorem views_of_helpRequest {path : String} (h : path = "/interactions" ∨ path = "/interactions\n")
    (s : Session Script) :
    (helpGateway.step (helpRequest path) s).after.metrics.get "help.view"
      = s.metrics.get "help.view" + 1 := by
  obtain ⟨journal, -, hafter⟩ := helpGateway.step_of_asks (s := s) ⟨rfl, h⟩
    (isSigned_helpRequest path) (ofBytes_helpRequest path) rfl
  rw [hafter.metrics, show helpGateway.dispatch _ 0 helpAsked = _ from dispatch_helpAsked _ _,
    (Service.reaches_of_ok _ _ _ _ check_helpForm).metrics, handler_helpCommand, metrics_help]
  simp

theorem not_untouched_helpRequest {path : String}
    (h : path = "/interactions" ∨ path = "/interactions\n") (s : Session Script) :
    ¬s.Untouched (helpGateway.step (helpRequest path) s).after := by
  intro huntouched
  have hviews := views_of_helpRequest h s
  rw [huntouched.metrics] at hviews
  exact Int.ne_of_lt (Int.lt_succ _) hviews

/-- The request for help is felt, and so it is admitted; without its headers it would have been
refused, and nothing would have happened. -/
theorem touched_only_by_admitted_help :
    let asked := helpRequest "/interactions"
    let unsigned : Arrival := { asked with headers := [] }
    let s : Session Script := { table := { source := .ofList [] } }
    let t := helpGateway.step asked (helpGateway.step unsigned s).after
    t ∈ helpGateway.steps [unsigned, asked] s ∧ ¬t.before.Untouched t.after
      ∧ helpGateway.Admits t.arrival
      ∧ (∀ a ∈ [unsigned], ¬helpGateway.Admits a) ∧ s.Untouched (helpGateway.after [unsigned] s) := by
  intro asked unsigned s t
  have ht : t ∈ helpGateway.steps [unsigned, asked] s :=
    List.mem_cons_of_mem _ (List.mem_singleton_self t)
  have htouched : ¬t.before.Untouched t.after := not_untouched_helpRequest (.inl rfl) _
  have hunsigned : ∀ a ∈ [unsigned], ¬helpGateway.Admits a := by
    rintro a ha hadmits
    obtain rfl := List.mem_singleton.1 ha
    obtain ⟨_, _, hheaded, _⟩ := hadmits.signed
    cases hheaded.signature.1
  exact ⟨ht, htouched, ((touched_only_by_admitted _ _ s).1 t ht).admits htouched, hunsigned,
    (touched_only_by_admitted _ _ s).2 hunsigned⟩

/-- **A line feed at the end of the path does not keep a request out.** -/
theorem touched_at_another_path :
    let a := helpRequest "/interactions\n"
    let s : Session Script := { table := { source := .ofList [] } }
    a.path ≠ "/interactions" ∧ ¬s.Untouched (helpGateway.step a s).after
      ∧ (helpGateway.step a s).after.metrics.get "help.view" = 1 :=
  ⟨by decide, not_untouched_helpRequest (.inr rfl) _, views_of_helpRequest (.inr rfl) _⟩

end Gateway

end Discord

end DicePool
