import DicePool.Proofs.Roll.Course

/-!
# Proofs/Roll/Layout — the dice of a roll, told from the numbers that fell

The numbers of a roll determine why each of its dice was rolled: `Request.causes` lists the pool,
the re-rolls of its failures, and one explosion for each die that reaches the threshold, wherever it
lies. Main statement `resolve_eq_ok_iff`: a roll of a pool has a result just in case the result is
laid out in this way, every explosion lies behind the die that caused it, and its numbers are the
next faces of the source.

That an explosion lies behind its cause is not idle: a last die that names itself as its cause
satisfies all the other conditions.
-/

namespace DicePool

/-- Why a die was rolled, and the place of the die that caused it. -/
def Die.cause (d : Die) : Origin × Option Int := (d.origin, d.trigger)

namespace Request

variable {q : Request}

/-! ## Causes -/

/-- Why the dice of a roll were rolled, in order: the pool, the re-rolls, the explosions. -/
def causes (q : Request) (vs : List Pips) : List (Origin × Option Int) :=
  List.replicate q.opening (.initial, none)
    ++ (q.rerolls vs).map (fun i : Nat => (.roteReroll, some (i : Int)))
    ++ (q.bursts vs).map (fun i : Nat => (.explosion, some (i : Int)))

theorem rerolls_take {vs : List Pips} {k : Nat} (ho : q.opening ≤ k) (hk : k ≤ vs.length) :
    q.rerolls (vs.take k) = q.rerolls vs := by
  rw [← rerolls_append (vs.drop k) (by rwa [List.length_take_of_le hk]), List.take_append_drop]

theorem base_take {vs : List Pips} {k : Nat} (ho : q.opening ≤ k) (hk : k ≤ vs.length) :
    q.base (vs.take k) = q.base vs := by
  rw [base, base, rerolls_take ho hk]

theorem length_causes (q : Request) (vs : List Pips) :
    (q.causes vs).length = q.base vs + (q.bursts vs).length := by
  simp [causes, base, Nat.add_assoc]

theorem getElem?_causes_of_lt_opening {vs : List Pips} {k : Nat} (h : k < q.opening) :
    (q.causes vs)[k]? = some (.initial, none) := by
  rw [causes, List.append_assoc, List.getElem?_append_left (by simpa using h),
    List.getElem?_replicate_of_lt h]

theorem getElem?_causes_of_lt_base {vs : List Pips} {k : Nat} (ho : q.opening ≤ k)
    (hb : k < q.base vs) :
    (q.causes vs)[k]?
      = (q.rerolls vs)[k - q.opening]?.map fun i : Nat => (.roteReroll, some (i : Int)) := by
  rw [causes, List.append_assoc, List.getElem?_append_right (by simpa using ho),
    List.getElem?_append_left (by simp [base] at hb ⊢; omega)]
  simp

theorem getElem?_causes_of_base_le {vs : List Pips} {k : Nat} (hb : q.base vs ≤ k) :
    (q.causes vs)[k]?
      = (q.bursts vs)[k - q.base vs]?.map fun i : Nat => (.explosion, some (i : Int)) := by
  rw [causes, List.getElem?_append_right (by simpa [base] using hb)]
  simp [base]

/-- **The next die is the next cause**, as long as the limit allows it. -/
theorem turn_eq_of_causes (q : Request) (limit : Int) (vs : List Pips) :
    q.turn limit vs = match (q.causes vs)[vs.length]? with
      | none => .finish
      | some (o, i) =>
        if q.base vs ≤ vs.length ∧ limit.toNat ≤ vs.length - q.base vs then .runaway
        else .roll o i := by
  rcases Nat.lt_or_ge vs.length q.opening with ho | ho
  · have hb : ¬q.base vs ≤ vs.length := by
      rw [base]
      omega
    rw [turn_of_lt_opening ho, getElem?_causes_of_lt_opening ho]
    exact (if_neg fun h => hb h.1).symm
  rcases Nat.lt_or_ge vs.length (q.base vs) with hb | hb
  · have hlt : vs.length - q.opening < (q.rerolls vs).length := by
      rw [base] at hb
      omega
    have hi := List.getElem?_eq_getElem hlt
    rw [turn_of_reroll ho hi, getElem?_causes_of_lt_base ho hb, hi]
    exact (if_neg fun h => Nat.not_le.2 hb h.1).symm
  · rw [turn_of_base_le hb, getElem?_causes_of_base_le hb]
    cases (q.bursts vs)[vs.length - q.base vs]? <;> simp [hb]

/-- **Causes are found early** — the cause of the die at place `k` is known once `k` numbers have
fallen, unless it is an explosion of a die that has not fallen. -/
theorem getElem?_causes_take {vs : List Pips} {k : Nat} (hk : k ≤ vs.length) {o : Origin}
    {i : Option Int} :
    (q.causes (vs.take k))[k]? = some (o, i)
      ↔ (q.causes vs)[k]? = some (o, i) ∧ (o = .explosion → ∀ j, i = some j → j < k) := by
  rcases Nat.lt_or_ge k q.opening with ho | ho
  · rw [getElem?_causes_of_lt_opening ho, getElem?_causes_of_lt_opening ho]
    grind
  have hbase := base_take ho hk
  rcases Nat.lt_or_ge k (q.base vs) with hb | hb
  · rw [getElem?_causes_of_lt_base ho hb, getElem?_causes_of_lt_base ho (hbase ▸ hb),
      rerolls_take ho hk]
    grind
  · rw [getElem?_causes_of_base_le hb, getElem?_causes_of_base_le (hbase ▸ hb), hbase]
    simp only [bursts, Option.map_eq_some_iff, getElem?_findIdxs_take]
    constructor
    · rintro ⟨j, ⟨hj, hburst⟩, ⟨⟩⟩
      refine ⟨⟨j, hburst, rfl⟩, fun _ j' hj' => ?_⟩
      obtain rfl := Option.some.inj hj'
      exact Int.ofNat_lt.2 hj
    · rintro ⟨⟨j, hburst, ⟨⟩⟩, hlt⟩
      exact ⟨j, ⟨Int.ofNat_lt.1 (hlt rfl j rfl), hburst⟩, rfl⟩

/-! ## Turns, told by causes -/

theorem turn_eq_roll_iff {limit : Int} {vs : List Pips} {o : Origin} {i : Option Int} :
    q.turn limit vs = .roll o i
      ↔ (q.causes vs)[vs.length]? = some (o, i)
        ∧ ¬(q.base vs ≤ vs.length ∧ limit.toNat ≤ vs.length - q.base vs) := by
  rw [turn_eq_of_causes]
  rcases (q.causes vs)[vs.length]? with _ | ⟨o', i'⟩
  · simp
  · dsimp only
    split <;> rename_i h <;> simp only [reduceCtorEq, Turn.roll.injEq, Option.some.injEq,
      Prod.mk.injEq, h, not_true, not_false_iff, and_true, and_false]

theorem turn_eq_finish_iff {limit : Int} {vs : List Pips} :
    q.turn limit vs = .finish ↔ (q.causes vs).length ≤ vs.length := by
  rw [turn_eq_of_causes, ← List.getElem?_eq_none_iff]
  rcases (q.causes vs)[vs.length]? with _ | ⟨o, i⟩
  · simp
  · dsimp only
    split <;> simp

/-- **The turn in which a die was rolled, told at the end of the roll.** -/
theorem turn_take_eq_roll_iff {limit : Int} {vs : List Pips} {k : Nat} (hk : k ≤ vs.length)
    {o : Origin} {i : Option Int} :
    q.turn limit (vs.take k) = .roll o i
      ↔ (q.causes vs)[k]? = some (o, i) ∧ (o = .explosion → ∀ j, i = some j → j < k)
        ∧ ¬(q.base vs ≤ k ∧ limit.toNat ≤ k - q.base vs) := by
  rw [turn_eq_roll_iff, List.length_take_of_le hk, getElem?_causes_take hk, and_assoc]
  refine and_congr_right fun _ => and_congr_right fun _ => not_congr ?_
  rcases Nat.lt_or_ge k q.opening with ho | ho
  · simp only [base]
    omega
  · rw [base_take ho hk]

/-! ## Layouts -/

/-- The result of a roll of a pool, told without rolling. -/
structure LaidOut (q : Request) (limit : Int) (r : Result) : Prop where
  /-- First come the dice of the pool, then the re-rolls of its failures, in order, and then one
  explosion for each die of the roll that reaches the threshold, in order. -/
  causes : r.dice.map Die.cause = q.causes r.values
  /-- An explosion lies behind the die that caused it. -/
  trigger_lt : ∀ (k : Nat) (h : k < r.dice.length), r.dice[k].origin = .explosion →
    ∀ i ∈ r.dice[k].trigger, i < k
  /-- Every die shows one to ten. -/
  bounds : ∀ v ∈ r.values, 1 ≤ v.count ∧ v.count ≤ 10
  /-- The successes are the dice that show eight or more. -/
  successes : r.successes = r.values.countP fun v => successAt ≤ v.count
  /-- The explosions are counted. -/
  explodedCount : r.explodedCount = r.dice.countP fun d => d.origin = .explosion
  /-- There are no more of them than are allowed. -/
  capped : r.explodedCount ≤ max limit 0
  /-- No chance die was rolled. -/
  isChance : r.isChance = false
  /-- Nothing was botched. -/
  isBotch : r.isBotch = false

/-- **A run is a list of dice that are caused in order, each by a die before it.** -/
theorem runs_iff_causes {limit : Int} {dice : List Die} :
    q.Runs limit [] dice
      ↔ dice.map Die.cause = q.causes (dice.map (·.value))
        ∧ (∀ (k : Nat) (h : k < dice.length), dice[k].origin = .explosion →
          ∀ i ∈ dice[k].trigger, i < k)
        ∧ (q.bursts (dice.map (·.value))).length ≤ limit.toNat := by
  rw [runs_nil_iff]
  generalize hvs : dice.map (·.value) = vs
  have hlen : vs.length = dice.length := by rw [← hvs, List.length_map]
  have hlt : ∀ {k : Nat} {d : Die}, dice[k]? = some d → k < vs.length := fun hd =>
    hlen ▸ (List.getElem?_eq_some_iff.1 hd).1
  rw [turn_eq_finish_iff]
  constructor
  · rintro ⟨hroll, hfinish⟩
    have hcause : ∀ {k d}, dice[k]? = some d → _ := fun {k d} hd =>
      (turn_take_eq_roll_iff (Nat.le_of_lt (hlt hd))).1 (hroll k d hd)
    refine ⟨List.ext_getElem? fun k => ?_, fun k hk => ?_, ?_⟩
    · rw [List.getElem?_map]
      cases hd : dice[k]? with
      | none =>
        rw [List.getElem?_eq_none_iff, ← hlen] at hd
        exact (List.getElem?_eq_none (Nat.le_trans hfinish hd)).symm
      | some d => exact (hcause hd).1.symm
    · exact (hcause (List.getElem?_eq_getElem hk)).2.1
    · by_contra hcap
      have hk : q.base vs + limit.toNat < dice.length := by
        rw [length_causes] at hfinish
        omega
      exact (hcause (List.getElem?_eq_getElem hk)).2.2 ⟨by omega, by omega⟩
  · rintro ⟨hcauses, htrigger, hcap⟩
    have hsize : (q.causes vs).length = vs.length := by rw [← hcauses, List.length_map, hlen]
    refine ⟨fun k d hd => (turn_take_eq_roll_iff (Nat.le_of_lt (hlt hd))).2 ⟨?_, ?_, ?_⟩,
      Nat.le_of_eq hsize⟩
    · rw [← hcauses, List.getElem?_map, hd]
      rfl
    · obtain ⟨hk, rfl⟩ := List.getElem?_eq_some_iff.1 hd
      exact htrigger k hk
    · have := hlt hd
      rw [← hsize, length_causes] at this
      omega

/-- **The dice of each origin** — those of the pool, its re-rolls, and the explosions. -/
theorem countP_origin {dice : List Die} {vs : List Pips} (h : dice.map Die.cause = q.causes vs)
    (o : Origin) :
    (dice.countP fun d => d.origin = o)
      = (if o = .initial then q.opening else 0) + (if o = .roteReroll then (q.rerolls vs).length else 0)
        + if o = .explosion then (q.bursts vs).length else 0 := by
  have hcauses : (dice.countP fun d => d.origin = o) = (q.causes vs).countP fun c => c.1 = o := by
    rw [← h, List.countP_map]
    rfl
  rw [hcauses, causes, List.countP_append, List.countP_append, List.countP_replicate,
    List.countP_map, List.countP_map]
  cases o <;> simp [Function.comp_def]

/-- The explosions of dice that are caused in order. -/
theorem countP_explosion {dice : List Die} {vs : List Pips}
    (h : dice.map Die.cause = q.causes vs) :
    (dice.countP fun d => d.origin = .explosion) = (q.bursts vs).length := by
  simpa using countP_origin h .explosion

theorem result_of_pool (hc : q.isChance = false) (dice : List Die) :
    q.result dice = {
      dice
      successes := dice.countP Die.succeeds
      explodedCount := dice.length - q.base (dice.map (·.value)) } := by
  rw [result, if_neg (by simp [hc])]

/-- **The explosions of a run are the dice that reach the threshold.** -/
theorem Runs.explodedCount {limit : Int} {dice : List Die} (h : q.Runs limit [] dice) :
    (q.result dice).explodedCount = (q.bursts (dice.map (·.value))).length := by
  have hlen := congrArg List.length (runs_iff_causes.1 h).1
  rw [List.length_map, length_causes] at hlen
  cases hc : q.isChance with
  | true => simp [result, bursts, hc, explodes, List.findIdxs_eq_nil_iff.2]
  | false =>
    rw [result_of_pool hc]
    dsimp only
    omega

/-- Dice that are caused in order are those before the explosions, and the explosions. -/
theorem length_eq_of_causes {dice : List Die}
    (h : dice.map Die.cause = q.causes (dice.map (·.value))) :
    dice.length = q.base (dice.map (·.value)) + dice.countP fun d => d.origin = .explosion := by
  rw [countP_explosion h, ← length_causes, ← h, List.length_map]

/-- **What a run comes to is laid out.** -/
theorem Runs.laidOut {limit : Int} {dice : List Die} (hc : q.isChance = false)
    (h : q.Runs limit [] dice) (hvalid : ∀ d ∈ dice, 1 ≤ d.value.count ∧ d.value.count ≤ 10) :
    q.LaidOut limit (q.result dice) := by
  obtain ⟨hcauses, htrigger, hcap⟩ := runs_iff_causes.1 h
  have hlen := length_eq_of_causes hcauses
  rw [← countP_explosion hcauses] at hcap
  rw [result_of_pool hc]
  exact {
    causes := hcauses
    trigger_lt := htrigger
    bounds := List.forall_mem_map.2 hvalid
    successes := by rw [Result.values, List.countP_map]; rfl
    explodedCount := by dsimp only; omega
    capped := by dsimp only; omega
    isChance := rfl
    isBotch := rfl }

/-- **A layout is a run, and the result is what it comes to.** -/
theorem LaidOut.runs {limit : Int} {r : Result} (hc : q.isChance = false)
    (h : q.LaidOut limit r) : q.Runs limit [] r.dice ∧ r = q.result r.dice := by
  have hlen := length_eq_of_causes h.causes
  have hexploded := h.explodedCount
  have hcapped := h.capped
  refine ⟨runs_iff_causes.2 ⟨h.causes, h.trigger_lt, ?_⟩, ?_⟩
  · rw [← Result.values, ← countP_explosion h.causes]
    omega
  · obtain ⟨dice, successes, isChance, isBotch, explodedCount⟩ := r
    have hsuccesses := h.successes
    obtain rfl : isChance = false := h.isChance
    obtain rfl : isBotch = false := h.isBotch
    rw [Result.values, List.countP_map] at hsuccesses
    rw [result_of_pool hc, Result.mk.injEq]
    exact ⟨rfl, hsuccesses, rfl, rfl, by dsimp only at hlen hexploded ⊢; omega⟩

end Request

open Request

variable {σ : Type} [Source σ]

/-- **A pool has a result just in case it is laid out and its numbers are handed out** — for every
source, every limit and every result, and what is left of the source is what follows the numbers. -/
theorem resolve_eq_ok_iff {q : Request} (hpool : 0 < q.poolSize) (limit : Int) (s s' : σ)
    (r : Result) :
    (resolve q limit).playOn s = (.ok r, s') ↔ Hands s r.values s' ∧ q.LaidOut limit r := by
  have hc : q.isChance = false := decide_eq_false (Int.not_le.2 hpool)
  rw [resolve_playOn_eq_ok_iff_runs]
  constructor
  · rintro ⟨dice, hruns, hvalid, hhands, rfl⟩
    rw [result_values]
    exact ⟨hhands, hruns.laidOut hc hvalid⟩
  · rintro ⟨hhands, h⟩
    obtain ⟨hruns, hr⟩ := h.runs hc
    exact ⟨r.dice, hruns, List.forall_mem_map.1 h.bounds, hhands, hr⟩

/-- Three dice under the rote quality, nines adding dice: the three is rolled again, and an added
ten adds a die in its turn, which is the last that the limit allows. -/
theorem resolve_eq_ok_iff_rote_nineAgain :
    let q : Request := { poolSize := 3, rote := true, nineAgain := true }
    let faces := [10, 3, 9, 9, 2, 10, 1, 5, 7].map fun n => Face.pips (.number n)
    let r : Result := {
      dice := [⟨.number 10, .initial, none⟩, ⟨.number 3, .initial, none⟩,
        ⟨.number 9, .initial, none⟩, ⟨.number 9, .roteReroll, some 1⟩,
        ⟨.number 2, .explosion, some 0⟩, ⟨.number 10, .explosion, some 2⟩,
        ⟨.number 1, .explosion, some 3⟩, ⟨.number 5, .explosion, some 5⟩]
      successes := 4
      explodedCount := 4 }
    0 < q.poolSize ∧ (resolve q 4).playOn (Script.ofList faces) = (.ok r, ⟨8, faces.drop 8⟩) := by
  intro q faces r
  have hlaid : q.LaidOut 4 r := by constructor <;> decide
  exact ⟨by decide, (resolve_eq_ok_iff (by decide) 4 _ _ r).2 ⟨rfl, hlaid⟩⟩

end DicePool
