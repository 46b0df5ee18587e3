import DicePool.Proofs.Bot.Bound
import DicePool.Proofs.Bot.Recent
import DicePool.Proofs.Roll.Replay

/-!
# Proofs/Bot/Shared — the streams that rolls share

Rolls without a table share their dice by seed and limit, and only so many of these are kept. Main
statement `shared_stream_resumes`: such a roll does what it does alone, with dice of its own on the table
that stand in the stream of the seed behind the faces of the last roll under the same seed and limit —
unless as many others were rolled in between as are kept, and then at the beginning.

The dice that are kept are a history of rolls (`History`), each of which went on from the dice that
were kept until then. Where the dice of a key stand in a history is `roll_diceOf`; that accepted rolls
make such a history, and do what they do alone, is `Follows.ask`, for one roll.
-/

namespace DicePool

/-- **A stream of dice never ends.** -/
theorem Twister.drawUpTo_eq (n : Nat) (t : Twister) :
    drawUpTo n t = ((takeFaces n t).1, none, (takeFaces n t).2) ∧ (takeFaces n t).1.length = n := by
  induction n generalizing t with
  | zero => exact ⟨rfl, rfl⟩
  | succ n ih =>
    have hdraw : Source.draw t = (.ok (.pips (.number (Twister.roll Twister.patience t).1)),
      (Twister.roll Twister.patience t).2) := rfl
    obtain ⟨hrest, hlen⟩ := ih (Twister.roll Twister.patience t).2
    rw [drawUpTo, takeFaces, hdraw]
    dsimp only
    rw [hrest]
    exact ⟨rfl, congrArg (· + 1) hlen⟩

/-- **A roll of a stream takes just the faces that it keeps.** -/
theorem Ruleset.takeFaces_lastDraws (q : Request) (rules : Ruleset Twister) :
    takeFaces (rules.roll q).2.lastDraws.length rules.source
      = ((rules.roll q).2.lastDraws, (rules.roll q).2.source) := by
  have htake := takeFaces_roll q rules
  -- so many faces were drawn in so many draws, so that none of them failed
  have hlen := (Twister.drawUpTo_eq ((rules.roll q).2.lastDraws.length
    + (RollError.ranDry (rules.roll q).1).toNat) rules.source).2
  rw [htake] at hlen
  rwa [Nat.left_eq_add.1 hlen, Nat.add_zero] at htake

/-- **A roll does not depend on what was kept of the last one.** -/
theorem Ruleset.roll_congr {σ : Type} [Source σ] {rules rules' : Ruleset σ}
    (hsource : rules.source = rules'.source) (hlimit : rules.limit = rules'.limit) (q : Request) :
    rules.roll q = rules'.roll q := by
  obtain ⟨source, limit, draws⟩ := rules
  obtain ⟨source', limit', draws'⟩ := rules'
  obtain rfl : source = source' := hsource
  obtain rfl : limit = limit' := hlimit
  rfl

namespace Bot

open BotM Pool

/-- What dice are shared by: a seed, if there is one, and a limit on explosions. -/
abbrev DiceKey := Option Int × Int

/-- The dice of a key that stand behind so many faces of its stream; without a seed that is the stream
of `entropy`. -/
def diceAt (entropy : Int) (key : DiceKey) (n : Nat) : Ruleset Twister :=
  { source := (takeFaces n (Twister.ofSeed (key.1.getD entropy))).2, limit := key.2 }

/-! ## Histories -/

/-- The dice of a key after a history: those that are still kept, or fresh ones. -/
def diceOf (entropy : Int) (past : List (DiceKey × Ruleset Twister)) (key : DiceKey) :
    Ruleset Twister :=
  ((Recent.keepAll sharedSize past).get? key).getD (diceAt entropy key 0)

/-- A history of rolls, the last one in front: each left the dice that it was rolled with. -/
inductive History (entropy : Int) : List (DiceKey × Ruleset Twister) → Prop
  | nil : History entropy []
  | roll {past : List (DiceKey × Ruleset Twister)} (key : DiceKey) (q : Request) :
    History entropy past →
      History entropy ((key, ((diceOf entropy past key).roll q).2) :: past)

variable {entropy : Int} {key : DiceKey}

theorem History.of_append {newer older : List (DiceKey × Ruleset Twister)} {rules : Ruleset Twister}
    (h : History entropy (newer ++ (key, rules) :: older)) :
    History entropy older ∧ ∃ q, rules = ((diceOf entropy older key).roll q).2 := by
  induction newer with
  | nil =>
    cases h with
    | roll _ q hpast => exact ⟨hpast, q, rfl⟩
  | cons p newer ih =>
    cases h with
    | roll _ _ hpast => exact ih hpast

/-- What was drawn in a history. -/
def drawn (past : List (DiceKey × Ruleset Twister)) : List (DiceKey × List Face) :=
  past.map fun p => (p.1, p.2.lastDraws)

theorem drawn_append_cons (newer older : List (DiceKey × Ruleset Twister)) (key : DiceKey)
    (rules : Ruleset Twister) : drawn (newer ++ (key, rules) :: older)
      = drawn newer ++ (key, rules.lastDraws) :: drawn older := by
  rw [drawn, List.map_append, List.map_cons]
  rfl

theorem keys_drawn (past : List (DiceKey × Ruleset Twister)) :
    Recent.keys (drawn past) = Recent.keys past := by
  simp [Recent.keys, drawn, Function.comp_def]

/-! ## Positions -/

/-- How many faces of a key were drawn that its dice still know of, once `others` were used since it
was last. -/
def positionAmong (key : DiceKey) (others : Finset DiceKey) : List (DiceKey × List Face) → Nat
  | [] => 0
  | (k, faces) :: past =>
    if k = key then
      if others.card < sharedSize then positionAmong key ∅ past + faces.length else 0
    else positionAmong key (insert k others) past

/-- The position in the stream of a key at which the next roll goes on. -/
def position (key : DiceKey) (past : List (DiceKey × List Face)) : Nat := positionAmong key ∅ past

theorem positionAmong_of_notMem {past : List (DiceKey × List Face)}
    (h : key ∉ Recent.keys past) (others : Finset DiceKey) : positionAmong key others past = 0 := by
  induction past generalizing others with
  | nil => rfl
  | cons p past ih =>
    rw [Recent.keys_cons, List.mem_cons, not_or] at h
    rw [positionAmong, if_neg (Ne.symm h.1), ih h.2]

theorem positionAmong_append {newer older : List (DiceKey × List Face)} {faces : List Face}
    (h : key ∉ Recent.keys newer) (others : Finset DiceKey) :
    positionAmong key others (newer ++ (key, faces) :: older)
      = if (others ∪ (Recent.keys newer).toFinset).card < sharedSize then
          position key older + faces.length
        else 0 := by
  induction newer generalizing others with
  | nil => simp [positionAmong, position]
  | cons p newer ih =>
    rw [Recent.keys_cons, List.mem_cons, not_or] at h
    rw [List.cons_append, positionAmong, if_neg (Ne.symm h.1), ih h.2, Recent.keys_cons,
      List.toFinset_cons, Finset.insert_union, Finset.union_insert]

/-- **A key that was never used begins its stream.** -/
theorem position_of_notMem {past : List (DiceKey × List Face)} (h : key ∉ Recent.keys past) :
    position key past = 0 :=
  positionAmong_of_notMem h ∅

/-- **A stream goes on behind its last roll, unless too many others were used since.** -/
theorem position_append {newer older : List (DiceKey × List Face)} {faces : List Face}
    (h : key ∉ Recent.keys newer) : position key (newer ++ (key, faces) :: older)
      = if (Recent.keys newer).toFinset.card < sharedSize then position key older + faces.length
        else 0 := by
  rw [position, positionAmong_append h, Finset.empty_union]

theorem exists_last_use {α : Type} {past : List (DiceKey × α)} (h : key ∈ Recent.keys past) :
    ∃ newer value older, past = newer ++ (key, value) :: older ∧ key ∉ Recent.keys newer := by
  induction past with
  | nil => cases h
  | cons p past ih =>
    by_cases hp : p.1 = key
    · exact ⟨[], p.2, past, by rw [← hp]; rfl, List.not_mem_nil⟩
    · rw [Recent.keys_cons, List.mem_cons] at h
      obtain ⟨newer, value, older, rfl, hnewer⟩ := ih (h.resolve_left (Ne.symm hp))
      refine ⟨p :: newer, value, older, rfl, ?_⟩
      rw [Recent.keys_cons, List.mem_cons, not_or]
      exact ⟨Ne.symm hp, hnewer⟩

/-- The dice of a key stand at its position, under its limit. -/
theorem source_diceOf {past : List (DiceKey × Ruleset Twister)} (h : History entropy past)
    (key : DiceKey) :
    (diceOf entropy past key).source = (diceAt entropy key (position key (drawn past))).source ∧
      (diceOf entropy past key).limit = key.2 := by
  induction hn : past.length using Nat.strong_induction_on generalizing past with
  | _ n ih =>
    by_cases hmem : key ∈ Recent.keys past
    · obtain ⟨newer, rules, older, rfl, hnewer⟩ := exists_last_use hmem
      obtain ⟨holder, q, rfl⟩ := h.of_append
      have hdrawn : key ∉ Recent.keys (drawn newer) := by rwa [keys_drawn]
      rw [diceOf, Recent.get?_keepAll hnewer, drawn_append_cons, position_append hdrawn, keys_drawn]
      split
      next =>
        obtain ⟨hstart, hlimit⟩ := ih older.length (by simp [← hn]; omega) holder rfl
        refine ⟨?_, hlimit⟩
        change ((diceOf entropy older key).roll q).2.source = (takeFaces (_ + _) _).2
        rw [takeFaces_add]
        change _ = (takeFaces _ (diceAt entropy key (position key (drawn older))).source).2
        rw [← hstart, Ruleset.takeFaces_lastDraws]
      next => exact ⟨rfl, rfl⟩
    · have hdrawn : key ∉ Recent.keys (drawn past) := by rwa [keys_drawn]
      rw [diceOf, Recent.get?_keepAll_of_notMem hmem, position_of_notMem hdrawn]
      exact ⟨rfl, rfl⟩

/-- **The dice of a key are rolled at its position.** -/
theorem roll_diceOf {past : List (DiceKey × Ruleset Twister)} (h : History entropy past)
    (key : DiceKey) (q : Request) :
    (diceOf entropy past key).roll q = (diceAt entropy key (position key (drawn past))).roll q :=
  Ruleset.roll_congr (source_diceOf h key).1 (source_diceOf h key).2 q

/-! ## Rolls alone -/

/-- A roll that is asked for, and the settings that it runs under. -/
structure Ask where
  /-- Who asks. -/
  inv : Invocation
  /-- What for. -/
  options : RollOptions
  /-- The settings that the invocation has or finds. -/
  settings : Settings

variable {σ : Type} [Source σ]

namespace Ask

/-- What the dice of the roll are shared by. -/
def diceKey (a : Ask) : DiceKey := (a.settings.diceSeed, a.settings.maxExplosions)

/-- The roll is made with shared dice: its settings are these, it has no table, and its text makes a
request. -/
structure AcceptedIn (a : Ask) (s : Session σ) : Prop where
  /-- The settings are the ones that the invocation has or finds. -/
  settings : ((settingsOf a.inv).runOn s).1 = .ok a.settings
  /-- The dice on the table are not used. -/
  shares : a.inv.usesTable = false
  /-- The text is accepted. -/
  request : ∃ q, requestOf a.settings.maxPool a.options.text.toList = .ok q

/-- Runs the command that rolls. -/
def run (a : Ask) (s : Session σ) : Except Fault Reply × Session σ :=
  (roll a.inv a.options).runOn s

/-- The invocation with its settings, and with dice on the table. -/
def aloneInv (a : Ask) : Invocation :=
  { a.inv with settings := some a.settings, usesTable := true }

/-- Runs the command with dice of its own on the table, and nothing else around it. -/
def alone (a : Ask) (rules : Ruleset Twister) : Except Fault Reply × Session Twister :=
  (roll a.aloneInv a.options).runOn { table := rules }

omit [Source σ] in
/-- Settings are found in the surroundings, which are all that matters for them. -/
theorem AcceptedIn.of_around {a : Ask} {s s' : Session σ} (h : a.AcceptedIn s)
    (haround : s'.around = s.around) : a.AcceptedIn s' where
  settings := by
    have hsettings := h.settings
    unfold settingsOf at hsettings ⊢
    cases hinv : a.inv.settings with
    | some settings => simpa [hinv] using hsettings
    | none =>
      rw [hinv] at hsettings
      dsimp only at hsettings ⊢
      rw [runOn_bind_of_ok (runOn_get _)] at hsettings ⊢
      rw [haround]
      cases hload : Settings.load [] s.around with
      | ok settings => simpa [hload] using hsettings
      | error e => simp [hload] at hsettings
  shares := h.shares
  request := h.request

omit [Source σ] in
/-- A roll alone casts its dice and tells of them. -/
theorem alone_eq {a : Ask} {q : Request}
    (h : requestOf a.settings.maxPool a.options.text.toList = .ok q) (rules : Ruleset Twister) :
    a.alone rules = (answerRoll a.aloneInv a.settings (q.withModifiers a.options.toModifiers)).runOn
      { table := rules } := by
  rw [alone, runOn_roll (settingsOf_of_some rfl _), h]

omit [Source σ] in
/-- The dice on its table are rolled. -/
theorem table_alone {a : Ask} {q : Request}
    (h : requestOf a.settings.maxPool a.options.text.toList = .ok q) (rules : Ruleset Twister) :
    (a.alone rules).2.table = (rules.roll (q.withModifiers a.options.toModifiers)).2 := by
  rw [alone_eq h, (dice_of_answerRoll _ _ _ _).1]
  rfl

/-- What follows the cast leaves everything alone that settings and fresh dice depend on. -/
theorem surroundings_of_answerRoll (inv : Invocation) (settings : Settings) (q : Request)
    (s : Session σ) : ((answerRoll inv settings q).runOn s).2.around = s.around ∧
      ((answerRoll inv settings q).runOn s).2.entropy = s.entropy := by
  rcases hcast : cast inv settings q s with ⟨e | r, s'⟩
  · rw [runOn_answerRoll_of_error hcast, session_of_cast hcast]
    exact ⟨rfl, rfl⟩
  · rw [runOn_answerRoll hcast, session_of_cast hcast]
    cases r.digest (some q) <;> exact ⟨rfl, rfl⟩

/-- Casting dice reports nothing. -/
theorem journal_cast (inv : Invocation) (settings : Settings) (q : Request) (s : Session σ) :
    (cast inv settings q s).2.journal = s.journal := by
  unfold cast
  split <;> rfl

/-- **Dice that fall alike are answered and reported alike**, whatever session they are cast in. -/
theorem answerRoll_alike (a : Ask) {q : Request} {s : Session σ} {t : Session Twister}
    (h : (cast a.inv a.settings q s).1 = (cast a.aloneInv a.settings q t).1) :
    let run := (answerRoll a.inv a.settings q).runOn s
    let alone := (answerRoll a.aloneInv a.settings q).runOn t
    run.1 = alone.1 ∧ ∃ told, run.2.journal.toList = s.journal.toList ++ told ∧
      alone.2.journal.toList = t.journal.toList ++ told := by
  intro run alone
  have hsession := journal_cast a.inv a.settings q s
  have hsession' := journal_cast a.aloneInv a.settings q t
  rcases hs : cast a.inv a.settings q s with ⟨outcome, s'⟩
  rcases ht : cast a.aloneInv a.settings q t with ⟨outcome', t'⟩
  rw [hs] at hsession h
  rw [ht] at hsession' h
  obtain rfl : outcome = outcome' := h
  dsimp only at hsession hsession'
  cases outcome with
  | error e =>
    have hrun : run = _ := runOn_answerRoll_of_error hs
    have halone : alone = _ := runOn_answerRoll_of_error ht
    rw [hrun, halone, hsession, hsession']
    exact ⟨rfl, _, Array.toList_appendList, Array.toList_appendList⟩
  | ok r =>
    have hrun : run = _ := runOn_answerRoll hs
    have halone : alone = _ := runOn_answerRoll ht
    rw [hrun, halone]
    cases r.digest (some q) with
    | error e =>
      refine ⟨rfl, resolveJournal q.record (.ok r), ?_, ?_⟩
      · simp [counted, hsession]
      · simp [counted, hsession']
    | ok digest =>
      refine ⟨rfl, resolveJournal q.record (.ok r) ++ [rollEvent a.inv q r digest], ?_, ?_⟩
      · simp [counted, hsession]
      · simp [counted, hsession']
        rfl

/-- **An accepted roll does what it does alone with the dice of its key**, and leaves these as the ones
used last — also if it fails. -/
theorem AcceptedIn.run {a : Ask} {s : Session σ} (h : a.AcceptedIn s) {rules : Ruleset Twister}
    (hrules : ∀ q, (sharedRules a.settings s).roll q = rules.roll q) :
    ((a.run s).1 = (a.alone rules).1 ∧
        (a.run s).2.journal.toList = s.journal.toList ++ (a.alone rules).2.journal.toList) ∧
      (a.run s).2.shared = s.shared.keep sharedSize a.diceKey (a.alone rules).2.table ∧
      (a.run s).2.around = s.around ∧ (a.run s).2.entropy = s.entropy := by
  obtain ⟨q₀, hq₀⟩ := h.request
  have halone := alone_eq hq₀ rules
  have htable := table_alone hq₀ rules
  have hrun : a.run s
      = (answerRoll a.inv a.settings (q₀.withModifiers a.options.toModifiers)).runOn s := by
    rw [Ask.run, runOn_roll h.settings, hq₀]
  generalize q₀.withModifiers a.options.toModifiers = q at halone htable hrun
  have hshared : cast a.inv a.settings q s
      = rollShared a.settings.diceSeed a.settings.maxExplosions q s := if_neg (by simp [h.shares])
  have hcast : (cast a.inv a.settings q s).1
      = (cast a.aloneInv a.settings q ({ table := rules } : Session Twister)).1 := by
    rw [hshared]
    exact congrArg Prod.fst (hrules q)
  obtain ⟨hreply, told, hjournal, htold⟩ := answerRoll_alike a hcast
  rw [← halone] at hreply htold
  refine ⟨?_, ?_, ?_⟩
  · rw [hrun, htold]
    exact ⟨hreply, hjournal⟩
  · rw [hrun, htable, (dice_of_answerRoll _ _ _ s).2, hshared, ← hrules q]
    rfl
  · rw [hrun]
    exact surroundings_of_answerRoll a.inv a.settings q s

end Ask

/-! ## Runs of rolls -/

/-- The session after rolls, the last one in front. -/
def afterAll (s : Session σ) : List Ask → Session σ
  | [] => s
  | a :: earlier => (a.run (afterAll s earlier)).2

/-- The faces that rolls draw, the last one in front, if each is made alone with dice that stand at the
position where the rolls before it have left its key. -/
def drawnAlone (entropy : Int) : List Ask → List (DiceKey × List Face)
  | [] => []
  | a :: earlier =>
    let past := drawnAlone entropy earlier
    (a.diceKey, (a.alone (diceAt entropy a.diceKey (position a.diceKey past))).2.table.lastDraws)
      :: past

/-- A session follows another by a history of rolls in which so much was drawn. -/
structure Follows (start : Session σ) (past : List (DiceKey × List Face)) (s : Session σ) : Prop where
  /-- The surroundings are the same. -/
  around : s.around = start.around
  /-- Fresh dice without a seed are the same. -/
  entropy : s.entropy = start.entropy
  /-- The dice that are shared are those of the history. -/
  history : ∃ kept, History start.entropy kept ∧ s.shared = Recent.keepAll sharedSize kept ∧
    drawn kept = past

omit [Source σ] in
theorem Follows.refl {s : Session σ} (h : s.shared = []) : Follows s [] s :=
  ⟨rfl, rfl, [], .nil, h, rfl⟩

/-- **An accepted roll does what it does alone at the position of its key**, and goes on with the
history. -/
theorem Follows.ask {start s : Session σ} {past : List (DiceKey × List Face)} {a : Ask}
    (h : Follows start past s) (ha : a.AcceptedIn start) :
    let alone := a.alone (diceAt start.entropy a.diceKey (position a.diceKey past))
    ((a.run s).1 = alone.1 ∧
        (a.run s).2.journal.toList = s.journal.toList ++ alone.2.journal.toList ∧
        (a.run s).2.shared.get? a.diceKey = some alone.2.table) ∧
      Follows start ((a.diceKey, alone.2.table.lastDraws) :: past) (a.run s).2 := by
  intro alone
  obtain ⟨kept, hkept, hshared, rfl⟩ := h.history
  have hrules : sharedRules a.settings s = diceOf start.entropy kept a.diceKey := by
    rw [sharedRules, hshared, h.entropy]
    rfl
  obtain ⟨⟨hreply, hjournal⟩, hafter, haround, hentropy⟩ :=
    (ha.of_around h.around).run fun q => hrules ▸ roll_diceOf hkept a.diceKey q
  obtain ⟨q₀, hq₀⟩ := ha.request
  have hroll : alone.2.table = ((diceOf start.entropy kept a.diceKey).roll
      (q₀.withModifiers a.options.toModifiers)).2 := by
    rw [roll_diceOf hkept, ← Ask.table_alone hq₀]
  refine ⟨⟨hreply, hjournal, ?_⟩, haround.trans h.around, hentropy.trans h.entropy, _,
    hkept.roll a.diceKey (q₀.withModifiers a.options.toModifiers), ?_, ?_⟩
  · rw [hafter, Recent.get?_keep (by decide)]
  · rw [hafter, hshared, ← hroll]
    rfl
  · rw [← hroll]
    rfl

theorem follows_afterAll {earlier : List Ask} {s : Session σ} (hshared : s.shared = [])
    (h : ∀ a ∈ earlier, a.AcceptedIn s) :
    Follows s (drawnAlone s.entropy earlier) (afterAll s earlier) := by
  induction earlier with
  | nil => exact .refl hshared
  | cons a earlier ih =>
    rw [List.forall_mem_cons] at h
    exact ((ih h.2).ask h.1).2

/-- **A roll with shared dice goes on where the last roll of its seed and limit ended**, as long as
fewer than eight others were used in between, and begins the stream of its seed if none was made
before or if eight or more were: it is answered and reported, and leaves its dice, as a roll alone does
whose dice stand there. This holds after every run of accepted rolls, whether they failed or not; other
seeds and limits never move the stream. -/
theorem shared_stream_resumes {earlier : List Ask} {a : Ask} {s : Session σ} {seed : Int}
    (hshared : s.shared = []) (hearlier : ∀ a ∈ earlier, a.AcceptedIn s) (ha : a.AcceptedIn s)
    (hseed : a.settings.diceSeed = some seed) :
    let now := afterAll s earlier
    let past := drawnAlone s.entropy earlier
    let start := position a.diceKey past
    let dice : Ruleset Twister :=
      { source := (takeFaces start (Twister.ofSeed seed)).2, limit := a.settings.maxExplosions }
    let alone := a.alone dice
    let faces := alone.2.table.lastDraws
    ((a.run now).1 = alone.1 ∧
      (a.run now).2.journal.toList = now.journal.toList ++ alone.2.journal.toList ∧
      (a.run now).2.shared.get? a.diceKey = some alone.2.table) ∧
    drawUpTo faces.length dice.source = (faces, none, alone.2.table.source) ∧
    (a.diceKey ∉ Recent.keys past → start = 0) ∧
    ∀ newer last older, past = newer ++ (a.diceKey, last) :: older → a.diceKey ∉ Recent.keys newer →
      start = if (Recent.keys newer).toFinset.card < 8 then position a.diceKey older + last.length
        else 0 := by
  intro now past start dice alone faces
  have hdice : dice = diceAt s.entropy a.diceKey start := by
    simp only [dice, diceAt, Ask.diceKey, hseed, Option.getD_some]
  obtain ⟨hrun, -⟩ := (follows_afterAll hshared hearlier).ask ha
  rw [← hdice] at hrun
  refine ⟨hrun, ?_, position_of_notMem, fun newer last older hpast hnewer => ?_⟩
  · obtain ⟨q₀, hq₀⟩ := ha.request
    have htake := Ruleset.takeFaces_lastDraws (q₀.withModifiers a.options.toModifiers) dice
    rw [← Ask.table_alone hq₀] at htake
    rw [(Twister.drawUpTo_eq faces.length dice.source).1, htake]
  · rw [show start = position a.diceKey past from rfl, hpast]
    exact position_append hnewer

/-- A pool of three dice without explosions draws three faces of a stream. -/
theorem length_lastDraws_three (rules : Ruleset Twister) :
    (rules.roll { poolSize := 3, noExplode := true }).2.lastDraws.length = 3 := by
  have hdie (t : Twister) : ∃ p u, Source.draw t = (.ok (.pips p), u) ∧
      (Face.pips p).valid? = some p := by
    obtain ⟨hone, hten⟩ := Twister.roll_bounds Twister.patience t
    exact ⟨_, _, rfl, Face.valid?_eq_some_iff.2 ⟨rfl, Int.ofNat_le.2 hone, Int.ofNat_le.2 hten⟩⟩
  obtain ⟨p₁, t₁, hdraw₁, hvalid₁⟩ := hdie rules.source
  obtain ⟨p₂, t₂, hdraw₂, hvalid₂⟩ := hdie t₁
  obtain ⟨p₃, t₃, hdraw₃, hvalid₃⟩ := hdie t₂
  have hroll {vs : List Pips} (h : vs.length < 3) :
      Request.turn { poolSize := 3, noExplode := true } rules.limit vs = .roll .initial none :=
    Request.turn_of_lt_opening h
  have hfinish : Request.turn { poolSize := 3, noExplode := true } rules.limit [p₁, p₂, p₃]
      = .finish := by
    simp [Request.turn, Request.opening, Request.rerolls, Request.bursts, Request.explodes,
      Request.isChance, Modifiers.threshold]
  rw [Ruleset.roll_of_draws (.die (hroll (by simp)) hdraw₁ hvalid₁ (.die (hroll (by simp)) hdraw₂
    hvalid₂ (.die (hroll (by simp)) hdraw₃ hvalid₃ (.finish hfinish))))]
  rfl

/-- Three dice of the seed one, again and again, each time three faces. The first roll begins the stream;
after one of another seed it goes on behind three faces, and then behind six; after rolls of eight
others it begins again. -/
theorem shared_stream_resumes_seed_one :
    let s : Session Script := { table := { source := .ofList [] } }
    let ask (seed : Int) : Ask := {
      inv := { name := "roll", userId := "u1", settings := some { diceSeed := some seed },
               usesTable := false, known := [] }
      options := { pool := "3", noExplode := true }
      settings := { diceSeed := some seed } }
    let replyAfter (seeds : List Int) := ((ask 1).run (afterAll s (seeds.map ask))).1
    let replyBehind (n : Nat) :=
      ((ask 1).alone { source := (takeFaces n (Twister.ofSeed 1)).2, limit := 10000 }).1
    s.shared = [] ∧ (∀ seed, (ask seed).AcceptedIn s) ∧
      (∀ seed rules, ((ask seed).alone rules).2.table.lastDraws.length = 3) ∧
      replyAfter [] = replyBehind 0 ∧ replyAfter [2, 1] = replyBehind 3 ∧
      replyAfter [1, 2, 1] = replyBehind 6 ∧
      replyAfter [9, 8, 7, 6, 5, 4, 3, 2, 1] = replyBehind 0 := by
  intro s ask replyAfter replyBehind
  have hrequest : requestOf 100 "3".toList = .ok { poolSize := 3 } := by decide +kernel
  have haccepted (seed : Int) : (ask seed).AcceptedIn s := ⟨rfl, rfl, _, hrequest⟩
  have hthree (seed : Int) (rules : Ruleset Twister) :
      ((ask seed).alone rules).2.table.lastDraws.length = 3 := by
    rw [Ask.table_alone (a := ask seed) hrequest]
    exact length_lastDraws_three rules
  have hresumes (seeds : List Int) := @shared_stream_resumes _ _ (seeds.map ask) (ask 1) s 1 rfl
    (by simp [haccepted]) (haccepted 1) rfl
  let start (seeds : List Int) := position (ask 1).diceKey (drawnAlone s.entropy (seeds.map ask))
  have hreply {seeds : List Int} {n : Nat} (h : start seeds = n) :
      replyAfter seeds = replyBehind n := h ▸ (hresumes seeds).1.1
  have hfirst : start [] = 0 := rfl
  have hsecond : start [2, 1] = 3 := by
    refine ((hresumes [2, 1]).2.2.2 [_] _ [] rfl (by decide +kernel)).trans ?_
    rw [if_pos (by decide +kernel), hthree]
    exact congrArg (· + 3) hfirst
  have hthird : start [1, 2, 1] = 6 := by
    refine ((hresumes [1, 2, 1]).2.2.2 [] _ _ rfl List.not_mem_nil).trans ?_
    rw [if_pos (by decide +kernel), hthree]
    exact congrArg (· + 3) hsecond
  have hlast : start [9, 8, 7, 6, 5, 4, 3, 2, 1] = 0 := by
    refine ((hresumes [9, 8, 7, 6, 5, 4, 3, 2, 1]).2.2.2 [_, _, _, _, _, _, _, _] _ [] rfl
      (by decide +kernel)).trans ?_
    rw [if_neg (by decide +kernel)]
  exact ⟨rfl, haccepted, hthree, hreply hfirst, hreply hsecond, hreply hthird, hreply hlast⟩

end Bot

end DicePool
