import DicePool.Proofs.Roll.Draws
import DicePool.Roll.Ruleset

/-!
# Proofs/Roll/Replay — a ruleset loses no face, and its last roll can be rolled again

A ruleset is called again and again, under limits that change and with rolls that fail. Main statement
`callAll_continues_and_replays`: whatever was called before, the faces that were kept after each call
are the faces of the source in order, the next call goes on behind them, and the faces that it keeps
make the same roll once more. Only what the source itself failed with is not in them
(`replay_of_dead_line`).

Both halves are read off the account of a single roll (`roll_of_draws`); only the first needs an
induction, over the calls.
-/

namespace DicePool.Ruleset

variable {σ : Type} [Source σ]

/-! ## One roll -/

/-- **A ruleset keeps the faces of the account**, and goes on where it ended. -/
theorem roll_of_draws {q : Request} {rules : Ruleset σ} {faces : List Face}
    {outcome : Except RollError Result} {s' : σ}
    (h : q.Draws rules.limit [] rules.source faces outcome s') :
    rules.roll q = (outcome, { rules with source := s', lastDraws := faces }) := by
  have hplay : (resolve q rules.limit).playOn (Recorder.ofSource rules.source)
      = (outcome, ⟨s', #[] ++ faces.toArray⟩) := (h.record #[]).resolve_playOn
  change (match (resolve q rules.limit).playOn (Recorder.ofSource rules.source) with
    | (outcome, recorder) =>
      (outcome, { rules with source := recorder.inner, lastDraws := recorder.draws.toList })) = _
  rw [hplay]
  simp

/-- **A roll draws the faces that it keeps from the source**, and fails as the source does. -/
theorem drawUpTo_roll (q : Request) (rules : Ruleset σ) :
    drawUpTo ((rules.roll q).2.lastDraws.length + (RollError.ranDry (rules.roll q).1).toNat)
      rules.source = ((rules.roll q).2.lastDraws, RollError.sourceFailure? (rules.roll q).1,
        (rules.roll q).2.source) := by
  obtain ⟨faces, outcome, s', h⟩ := q.exists_draws rules.limit [] rules.source
  rw [roll_of_draws h]
  exact h.drawUpTo_eq

/-- **A roll takes the faces that it keeps from the source**, whether it fails or not. -/
theorem takeFaces_roll (q : Request) (rules : Ruleset σ) :
    takeFaces ((rules.roll q).2.lastDraws.length + (RollError.ranDry (rules.roll q).1).toNat)
      rules.source = ((rules.roll q).2.lastDraws, (rules.roll q).2.source) := by
  obtain ⟨faces, outcome, s', h⟩ := q.exists_draws rules.limit [] rules.source
  rw [roll_of_draws h]
  exact h.takeFaces_eq

/-- **The last roll can be rolled again** — from its faces alone it ends as it did, with none of them
left; only where the source handed out no more, that is told by the new script. -/
theorem replay_roll (q : Request) (rules : Ruleset σ) :
    (rules.roll q).2.replay q
      = ((rules.roll q).1.mapError (RollError.onReplay (rules.roll q).2.lastDraws.length),
        ⟨(rules.roll q).2.lastDraws.length, []⟩) := by
  obtain ⟨faces, outcome, s', h⟩ := q.exists_draws rules.limit [] rules.source
  have hscript := (h.ofScript (fun _ => rfl) 0).resolve_playOn
  rw [List.append_nil, Nat.zero_add] at hscript
  rw [roll_of_draws h]
  exact hscript

/-- Rolls that end alike: with one result, or with failures of one kind. -/
inductive EndsLike : Except RollError Result → Except RollError Result → Prop
  | result (r : Result) : EndsLike (.ok r) (.ok r)
  | script (m n : Nat) :
    EndsLike (.error (.exhausted (.script m))) (.error (.exhausted (.script n)))
  | own (kind text text' : String) :
    EndsLike (.error (.exhausted (.own kind text))) (.error (.exhausted (.own kind text')))
  | invalidFace (shown shown' : String) :
    EndsLike (.error (.invalidFace shown)) (.error (.invalidFace shown'))
  | runaway (limit limit' : Int) : EndsLike (.error (.runaway limit)) (.error (.runaway limit'))
  | unwritable (e e' : Unwritable) : EndsLike (.error (.unwritable e)) (.error (.unwritable e'))

/-- **A script ends a roll as any source does**, unless that failed in a way of its own. -/
theorem endsLike_onReplay (outcome : Except RollError Result) (length : Nat) :
    (∃ kind text, RollError.sourceFailure? outcome = some (.own kind text)) ∨
      EndsLike outcome (outcome.mapError (RollError.onReplay length)) := by
  rcases outcome with ((n | ⟨kind, text⟩) | shown | limit | e) | r
  · exact .inr (.script n length)
  · exact .inl ⟨kind, text, rfl⟩
  · exact .inr (.invalidFace shown shown)
  · exact .inr (.runaway limit limit)
  · exact .inr (.unwritable e e)
  · exact .inr (.result r)

/-- **A roll with a result is a run of dice**, and the result is what they come to. -/
theorem exists_runs_of_roll {q : Request} {rules : Ruleset σ} {r : Result}
    (h : (rules.roll q).1 = .ok r) :
    ∃ dice, q.Runs rules.limit [] dice ∧ (∀ d ∈ dice, 1 ≤ d.value.count ∧ d.value.count ≤ 10) ∧
      r = q.result dice := by
  obtain ⟨faces, outcome, s', hdraws⟩ := q.exists_draws rules.limit [] rules.source
  rw [roll_of_draws hdraws] at h
  obtain rfl : outcome = .ok r := h
  obtain ⟨dice, hruns, hvalid, -, hresult⟩ :=
    Request.resolve_playOn_eq_ok_iff_runs.1 hdraws.resolve_playOn
  exact ⟨dice, hruns, hvalid, hresult⟩

/-! ## Many rolls -/

/-- A call that was made. -/
structure Call where
  /-- How the roll ended. -/
  outcome : Except RollError Result
  /-- The faces that were kept of it. -/
  draws : List Face

/-- How many draws a call made: one for each face, and one more if there was none left. -/
def Call.drawCount (c : Call) : Nat :=
  c.draws.length + (RollError.ranDry c.outcome).toNat

/-- How many draws calls made together. -/
def Call.drawTotal : List Call → Nat
  | [] => 0
  | c :: calls => c.drawCount + drawTotal calls

/-- Calls a ruleset for each request under its limit: the calls, and the ruleset afterwards. -/
def callAll : List (Int × Request) → Ruleset σ → List Call × Ruleset σ
  | [], rules => ([], rules)
  | (limit, q) :: asked, rules =>
    let (outcome, rules) := { rules with limit }.roll q
    let (calls, last) := callAll asked rules
    (⟨outcome, rules.lastDraws⟩ :: calls, last)

theorem callAll_cons (limit : Int) (q : Request) (asked : List (Int × Request))
    (rules : Ruleset σ) :
    rules.callAll ((limit, q) :: asked)
      = (⟨({ rules with limit }.roll q).1, ({ rules with limit }.roll q).2.lastDraws⟩
          :: (({ rules with limit }.roll q).2.callAll asked).1,
        (({ rules with limit }.roll q).2.callAll asked).2) := rfl

/-- **The faces kept after each call are the faces of the source** — none is lost, told twice or out
of place. -/
theorem takeFaces_callAll (asked : List (Int × Request)) (rules : Ruleset σ) :
    takeFaces (Call.drawTotal (rules.callAll asked).1) rules.source
      = ((rules.callAll asked).1.flatMap Call.draws, (rules.callAll asked).2.source) := by
  induction asked generalizing rules with
  | nil => rfl
  | cons step asked ih =>
    obtain ⟨limit, q⟩ := step
    have hroll := takeFaces_roll q { rules with limit }
    rw [callAll_cons, Call.drawTotal, List.flatMap_cons, takeFaces_add, Call.drawCount]
    dsimp only at hroll ⊢
    rw [hroll, ih]

/-- **Rolls go on where the last one ended, and each can be rolled again** — after any calls, which
may have failed, under limits that were set anew each time: the faces kept after each call are, one
after the other, those that the source handed out; the next call draws its own faces from there on, and
if the source fails, passes that failure on as it is; and the faces that it keeps make the same roll from
a script, with none left, which ends alike: with the same result, or with a failure of the same kind.
Only where the source failed in a way of its own, the script is at its end instead. -/
theorem callAll_continues_and_replays (asked : List (Int × Request)) (limit : Int) (q : Request)
    (rules : Ruleset σ) :
    let past := rules.callAll asked
    let next := { past.2 with limit }.roll q
    takeFaces (Call.drawTotal past.1) rules.source
        = (past.1.flatMap Call.draws, past.2.source) ∧
      drawUpTo (Call.mk next.1 next.2.lastDraws).drawCount past.2.source
        = (next.2.lastDraws, RollError.sourceFailure? next.1, next.2.source) ∧
      next.2.replay q
        = (next.1.mapError (RollError.onReplay next.2.lastDraws.length),
          ⟨next.2.lastDraws.length, []⟩) ∧
      ((∃ kind text, RollError.sourceFailure? next.1 = some (.own kind text)) ∨
        EndsLike next.1 (next.2.replay q).1) := by
  intro past next
  have hreplay := replay_roll q { past.2 with limit }
  exact ⟨takeFaces_callAll asked rules, drawUpTo_roll q { past.2 with limit }, hreplay,
    hreplay ▸ endsLike_onReplay next.1 _⟩

/-- Faces that are read over a line, until that is dead. -/
structure Line where
  /-- The faces that are read. -/
  faces : List Face

instance : Source Line where
  draw
    | ⟨[]⟩ => (.error (.own "connection" "The line is dead"), ⟨[]⟩)
    | ⟨f :: faces⟩ => (.ok f, ⟨faces⟩)

/-- **A failure of the source itself is no part of what is kept**: the first of two dice is read over the
line, which is dead then; a script of that die is just at its end. -/
theorem replay_of_dead_line :
    let rules : Ruleset Line := { source := ⟨[.pips (.number 9)]⟩ }
    let q : Request := { poolSize := 2 }
    let next := rules.roll q
    next.1 = .error (.exhausted (.own "connection" "The line is dead")) ∧
      next.2.lastDraws = [.pips (.number 9)] ∧
      (next.2.replay q).1 = .error (.exhausted (.script 1)) ∧
      ¬EndsLike next.1 (next.2.replay q).1 := by
  intro rules q next
  have hnext : next.1 = .error (.exhausted (.own "connection" "The line is dead")) := rfl
  have hreplay : (next.2.replay q).1 = .error (.exhausted (.script 1)) := rfl
  refine ⟨hnext, rfl, hreplay, ?_⟩
  rw [hnext, hreplay]
  rintro ⟨⟩

end DicePool.Ruleset
