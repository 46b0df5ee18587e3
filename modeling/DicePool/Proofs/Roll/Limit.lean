import DicePool.Proofs.Roll.Draws
import DicePool.Proofs.Roll.Generosity

/-!
# Proofs/Roll/Limit — the limit on explosions stops a roll, and does nothing else

A limit shows in a turn only where a die explodes that must not, so a roll under one limit is the roll
under any other up to that turn. Main statement `resolve_limit_exact`: a roll that has a result has
the same one under every higher limit, and under a lower limit just in case that allows as many
explosions as there were; else the roll has run away once the allowed ones lie on the table.
-/

namespace DicePool

namespace Request

variable {σ : Type} [Source σ] {q : Request} {limit limit' : Int} {dice : List Die} {s s' : σ}

/-! ## Limits and turns -/

/-- A limit that allows the explosions of a run allows the run. -/
theorem Runs.of_bursts_le (h : q.Runs limit' [] dice)
    (hcap : (q.bursts (dice.map (·.value))).length ≤ limit.toNat) : q.Runs limit [] dice :=
  let ⟨hcauses, htrigger, _⟩ := runs_iff_causes.1 h
  runs_iff_causes.2 ⟨hcauses, htrigger, hcap⟩

theorem Runs.bursts_le (h : q.Runs limit [] dice) :
    (q.bursts (dice.map (·.value))).length ≤ limit.toNat :=
  (runs_iff_causes.1 h).2.2

/-- **Up to the explosion that is one too many, the turns of a run do not depend on the limit.** -/
theorem Runs.turn_take (h : q.Runs limit' [] dice) {k : Nat} {d : Die} (hd : dice[k]? = some d)
    (hk : k < q.base (dice.map (·.value)) + limit.toNat) :
    q.turn limit ((dice.map (·.value)).take k) = .roll d.origin d.trigger := by
  have hlen : k ≤ (dice.map (·.value)).length := by
    rw [List.length_map]
    exact Nat.le_of_lt (List.getElem?_eq_some_iff.1 hd).1
  obtain ⟨hcause, htrigger, -⟩ := (turn_take_eq_roll_iff hlen).1 ((runs_nil_iff.1 h).1 k d hd)
  exact (turn_take_eq_roll_iff hlen).2 ⟨hcause, htrigger, by omega⟩

/-- **That explosion stops the roll.** -/
theorem Runs.turn_take_eq_runaway (h : q.Runs limit' [] dice)
    (hcap : limit.toNat < (q.bursts (dice.map (·.value))).length) :
    q.turn limit ((dice.map (·.value)).take (q.base (dice.map (·.value)) + limit.toNat))
      = .runaway := by
  have hsize := congrArg List.length (runs_iff_causes.1 h).1
  rw [List.length_map, length_causes] at hsize
  generalize hvs : dice.map (·.value) = vs at *
  generalize hk : q.base vs + limit.toNat = k
  have hlt : k < dice.length := by omega
  have hlen : k ≤ vs.length := by
    rw [← hvs, List.length_map]
    exact Nat.le_of_lt hlt
  have hbase : q.base (vs.take k) = q.base vs :=
    base_take (Nat.le_trans (Nat.le_add_right _ _) (hk ▸ Nat.le_add_right _ _)) hlen
  have hturn : q.turn limit' (vs.take k) = .roll dice[k].origin dice[k].trigger :=
    hvs ▸ (runs_nil_iff.1 h).1 k _ (List.getElem?_eq_getElem hlt)
  have hcause := (turn_eq_roll_iff.1 hturn).1
  rw [turn_eq_of_causes, hcause]
  refine if_pos ?_
  rw [hbase, List.length_take_of_le hlen]
  omega

/-! ## Limits and rolls -/

/-- **A run is drawn from a source that hands its numbers out.** -/
theorem Runs.draws (h : q.Runs limit [] dice)
    (hvalid : ∀ d ∈ dice, 1 ≤ d.value.count ∧ d.value.count ≤ 10)
    (hhands : Hands s (dice.map (·.value)) s') :
    q.Draws limit [] s (dice.map fun d => .pips d.value) (.ok (q.result dice)) s' := by
  obtain ⟨hroll, hfinish⟩ := runs_nil_iff.1 h
  have hend : q.Draws limit ([] ++ dice) s' [] (.ok (q.result dice)) s' := .finish hfinish
  rw [← List.append_nil (dice.map fun d => Face.pips d.value)]
  exact draws_of_called dice (fun k d hd => by simpa [List.map_take] using hroll k d hd) hvalid
    hhands hend

/-- **Under a limit that is too low, the same faces are drawn until the roll has run away.** -/
theorem Runs.draws_runaway (h : q.Runs limit' [] dice) (hlimit : 0 ≤ limit)
    (hvalid : ∀ d ∈ dice, 1 ≤ d.value.count ∧ d.value.count ≤ 10)
    (hhands : Hands s (dice.map (·.value)) s')
    (hcap : limit.toNat < (q.bursts (dice.map (·.value))).length) :
    ∃ t, q.Draws limit [] s
      ((dice.take (q.base (dice.map (·.value)) + limit.toNat)).map fun d => .pips d.value)
      (.error (.runaway limit)) t := by
  have hrunaway := h.turn_take_eq_runaway hcap
  generalize hk : q.base (dice.map (·.value)) + limit.toNat = k at hrunaway ⊢
  obtain ⟨t, hfirst, -⟩ : ∃ t, Hands s ((dice.take k).map (·.value)) t
      ∧ Hands t ((dice.drop k).map (·.value)) s' := by
    rw [← hands_append_iff, ← List.map_append, List.take_append_drop]
    exact hhands
  have hend : q.Draws limit ([] ++ dice.take k) t [] (.error (.runaway limit)) t :=
    RollError.ofLimit_of_nonneg hlimit ▸ .runaway (by simpa [List.map_take] using hrunaway)
  refine ⟨t, ?_⟩
  rw [← List.append_nil ((dice.take k).map fun d => Face.pips d.value)]
  refine draws_of_called (dice.take k) (fun j d hd => ?_)
    (fun d hd => hvalid d (List.mem_of_mem_take hd)) hfirst hend
  obtain ⟨hj, hd⟩ : j < k ∧ dice[j]? = some d := by
    rw [List.getElem?_take] at hd
    split at hd
    next hj => exact ⟨hj, hd⟩
    next => cases hd
  have hturn := h.turn_take hd (hk ▸ hj)
  rw [← List.map_take] at hturn
  rwa [List.nil_append, List.take_take, Nat.min_eq_left (Nat.le_of_lt hj)]

/-! ## What is drawn before the explosions -/

/-- Only a pool explodes. -/
theorem isChance_eq_false_of_explodedCount_pos (h : 0 < (q.result dice).explodedCount) :
    q.isChance = false := by
  cases hc : q.isChance with
  | false => rfl
  | true => simp [result, hc] at h

/-- The dice before the explosions are the pool and its re-rolls. -/
theorem cast_base (hc : q.isChance = false)
    (hcauses : dice.map Die.cause = q.causes (dice.map (·.value))) :
    (q.base (dice.map (·.value)) : Int)
      = q.poolSize + (dice.countP fun d => d.origin = .roteReroll) := by
  have hrerolls : (dice.countP fun d => d.origin = .roteReroll)
      = (q.rerolls (dice.map (·.value))).length := by simpa using countP_origin hcauses .roteReroll
  have hopening : (q.opening : Int) = q.poolSize := by
    rw [opening, hc, if_neg Bool.false_ne_true]
    exact Int.toNat_of_nonneg (Int.le_of_lt (isChance_eq_false_iff.1 hc))
  rw [base, Int.natCast_add, hopening, hrerolls]

end Request

open Request

variable {σ : Type} [Source σ]

/-- **The limit on explosions is exact and cuts nothing short** — a result is the same, with the same
faces drawn, under every higher limit; under a lower one the roll has a result just in case there are
no more explosions than it allows, and else it has run away: the pool, the re-rolls and the allowed
explosions were drawn, which are the first faces of the roll that had a result. -/
theorem resolve_limit_exact (q : Request) {limit limit' : Int} (hlimit : 0 ≤ limit)
    (hle : limit ≤ limit') (s : σ) :
    (∀ r t, (resolve q limit).playOn s = (.ok r, t) →
      (resolve q limit').playOn s = (.ok r, t) ∧ q.drawn limit' s = q.drawn limit s) ∧
    ∀ r t, (resolve q limit').playOn s = (.ok r, t) →
      ((∃ r' t', (resolve q limit).playOn s = (.ok r', t')) ↔ r.explodedCount ≤ limit) ∧
      (r.explodedCount ≤ limit → (resolve q limit).playOn s = (.ok r, t)) ∧
      (limit < r.explodedCount →
        ((resolve q limit).playOn s).1 = .error (.runaway limit) ∧
        ((q.drawn limit s).length : Int)
          = q.poolSize + (r.dice.countP fun d => d.origin = .roteReroll) + limit ∧
        q.drawn limit s <+: q.drawn limit' s) := by
  refine ⟨fun r t hr => ?_, fun r t hr => ?_⟩
  · obtain ⟨dice, hruns, hvalid, hhands, rfl⟩ := resolve_playOn_eq_ok_iff_runs.1 hr
    have hruns' : q.Runs limit' [] dice :=
      hruns.of_bursts_le (Nat.le_trans hruns.bursts_le (Int.toNat_le_toNat hle))
    have hdraws' := hruns'.draws hvalid hhands
    exact ⟨hdraws'.resolve_playOn,
      hdraws'.drawn_eq.trans (hruns.draws hvalid hhands).drawn_eq.symm⟩
  · obtain ⟨dice, hruns, hvalid, hhands, rfl⟩ := resolve_playOn_eq_ok_iff_runs.1 hr
    have hcount := hruns.explodedCount
    have hlow : (q.result dice).explodedCount ≤ limit →
        (resolve q limit).playOn s = (.ok (q.result dice), t) := fun h =>
      ((hruns.of_bursts_le (by omega)).draws hvalid hhands).resolve_playOn
    have hhigh : limit < (q.result dice).explodedCount → ∃ t', q.Draws limit [] s
        ((dice.take (q.base (dice.map (·.value)) + limit.toNat)).map fun d => .pips d.value)
        (.error (.runaway limit)) t' := fun h =>
      hruns.draws_runaway hlimit hvalid hhands (by omega)
    refine ⟨⟨fun ⟨r', t', hr'⟩ => ?_, fun h => ⟨_, _, hlow h⟩⟩, hlow, fun h => ?_⟩
    · by_contra hnot
      obtain ⟨u, hdraws⟩ := hhigh (Int.not_le.1 hnot)
      rw [hdraws.resolve_playOn] at hr'
      cases hr'
    · obtain ⟨u, hdraws⟩ := hhigh h
      have hcauses := (runs_iff_causes.1 hruns).1
      have hc : q.isChance = false :=
        isChance_eq_false_of_explodedCount_pos (Int.lt_of_le_of_lt hlimit h)
      have hsize := length_eq_of_causes hcauses
      rw [countP_explosion hcauses] at hsize
      refine ⟨by rw [hdraws.resolve_playOn], ?_, ?_⟩
      · rw [hdraws.drawn_eq, result_dice, ← cast_base hc hcauses, List.length_map,
          List.length_take_of_le (by omega)]
        omega
      · rw [hdraws.drawn_eq, (hruns.draws hvalid hhands).drawn_eq]
        exact (List.take_prefix _ _).map _

/-- Two dice under the rote quality, of which one is rolled again, and three explosions: with two
allowed, the roll has run away after five of its six faces; with three it has its result. -/
theorem resolve_limit_exact_two_of_three :
    let q : Request := { poolSize := 2, rote := true }
    let s := Script.ofList ([10, 4, 10, 10, 2, 7, 9].map fun n => Face.pips (.number n))
    let r : Result := {
      dice := [⟨.number 10, .initial, none⟩, ⟨.number 4, .initial, none⟩,
        ⟨.number 10, .roteReroll, some 1⟩, ⟨.number 10, .explosion, some 0⟩,
        ⟨.number 2, .explosion, some 2⟩, ⟨.number 7, .explosion, some 3⟩]
      successes := 3
      explodedCount := 3 }
    (0 : Int) ≤ 2 ∧ (2 : Int) ≤ 5 ∧ (resolve q 5).playOn s = (.ok r, ⟨6, s.rest.drop 6⟩) ∧
      2 < r.explodedCount ∧ ((resolve q 2).playOn s).1 = .error (.runaway 2) ∧
      (q.drawn 2 s).length = (5 : Int) ∧ q.drawn 2 s <+: q.drawn 5 s := by
  intro q s r
  have hr : (resolve q 5).playOn s = (.ok r, ⟨6, s.rest.drop 6⟩) :=
    resolve_playOn_eq_ok_iff_runs.2
      ⟨r.dice, runs_iff_causes.2 ⟨by decide, by decide, by decide⟩, by decide, rfl, by decide⟩
  have hlimit : (0 : Int) ≤ 2 := by decide
  have hle : (2 : Int) ≤ 5 := by decide
  obtain ⟨-, -, hhigh⟩ := (resolve_limit_exact q hlimit hle s).2 r _ hr
  exact ⟨hlimit, hle, hr, by decide, hhigh (by decide)⟩

end DicePool
