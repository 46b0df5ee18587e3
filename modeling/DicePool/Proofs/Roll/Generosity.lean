import DicePool.Proofs.Roll.Layout

/-!
# Proofs/Roll/Generosity — asking for more never does worse

Two requests may give the same face different roles, so that their rolls cannot be compared die by
die. They are compared by how many causes the same numbers hold: a request that is `Within` another
finds no more of them (`length_causes_le`), and a roll is over as soon as there are as many numbers
as causes. So the smaller roll is over before the larger one is, and its numbers are the first of
the other's: main statement `resolve_of_within`.
-/

namespace DicePool

namespace Request

/-- The request asks for no more than another: no more dice and, if dice are asked for, for re-rolls
only if the other does, and for explosions at no lower threshold, where none at all counts as
eleven. -/
structure Within (q q' : Request) : Prop where
  /-- There are no more dice. -/
  poolSize : q.poolSize ≤ q'.poolSize
  /-- There are no re-rolls that the other lacks. -/
  rote : 0 < q.poolSize → 0 < q'.poolSize → q.rote → q'.rote
  /-- The threshold is no lower. -/
  threshold : 0 < q.poolSize → 0 < q'.poolSize → q'.threshold.getD 11 ≤ q.threshold.getD 11

variable {q q' : Request}

/-! ## More numbers cause more explosions -/

theorem bursts_length_mono {vs ws : List Pips} (h : vs <+: ws) :
    (q.bursts vs).length ≤ (q.bursts ws).length := by
  rw [length_bursts, length_bursts]
  exact h.sublist.countP_le

/-! ## A larger request finds more causes -/

theorem isChance_eq_false_iff : q.isChance = false ↔ 0 < q.poolSize := by
  rw [isChance, decide_eq_false_iff_not, Int.not_le]

namespace Within

theorem isChance (h : q.Within q') (hc : q.isChance = false) : q'.isChance = false :=
  isChance_eq_false_iff.2 (Int.lt_of_lt_of_le (isChance_eq_false_iff.1 hc) h.poolSize)

theorem opening_le (h : q.Within q') : q.opening ≤ q'.opening := by
  have := h.poolSize
  unfold opening Request.isChance
  split <;> split <;> simp_all <;> omega

theorem rerolls_le (h : q.Within q') (vs : List Pips) :
    (q.rerolls vs).length ≤ (q'.rerolls vs).length := by
  cases hc : q.isChance with
  | true => simp [rerolls, hc]
  | false =>
    cases hr : q.rote with
    | false => simp [rerolls, hr]
    | true =>
      have hc' := h.isChance hc
      have hr' := h.rote (isChance_eq_false_iff.1 hc) (isChance_eq_false_iff.1 hc') hr
      simp only [rerolls, hc, hc', hr, hr', Bool.not_false, Bool.and_self, if_true,
        List.length_findIdxs]
      exact (List.take_prefix_take_left h.opening_le).sublist.countP_le

theorem explodes (h : q.Within q') {v : Pips} (hv : q.explodes v) : q'.explodes v := by
  simp only [Request.explodes, Bool.and_eq_true, Bool.not_eq_true', Option.any_eq_true,
    decide_eq_true_eq] at hv ⊢
  obtain ⟨hc, t, ht, htv⟩ := hv
  have hc' := h.isChance hc
  have hle := h.threshold (isChance_eq_false_iff.1 hc) (isChance_eq_false_iff.1 hc')
  have hten := (Modifiers.threshold_bounds ht).2
  rw [ht, Option.getD_some] at hle
  refine ⟨hc', ?_⟩
  cases ht' : q'.threshold with
  | none =>
    rw [ht', Option.getD_none] at hle
    omega
  | some t' =>
    rw [ht', Option.getD_some] at hle
    exact ⟨t', rfl, by omega⟩

theorem bursts_le (h : q.Within q') (vs : List Pips) :
    (q.bursts vs).length ≤ (q'.bursts vs).length := by
  rw [length_bursts, length_bursts]
  exact List.countP_mono_left fun v _ => h.explodes

/-- **The same numbers hold no more causes for the smaller request.** -/
theorem length_causes_le (h : q.Within q') (vs : List Pips) :
    (q.causes vs).length ≤ (q'.causes vs).length := by
  have ho := h.opening_le
  have hr := h.rerolls_le vs
  have hb := h.bursts_le vs
  rw [length_causes, length_causes, base, base]
  omega

end Within

/-! ## A roll is over once there are as many numbers as causes -/

theorem limit_lt_of_runaway {limit : Int} {vs : List Pips} (h : q.turn limit vs = .runaway) :
    limit.toNat < (q.bursts vs).length := by
  rw [turn_eq_of_causes] at h
  cases hk : (q.causes vs)[vs.length]? with
  | none =>
    rw [hk] at h
    exact Turn.noConfusion h
  | some c =>
    have hlt := (List.getElem?_eq_some_iff.1 hk).1
    rw [length_causes] at hlt
    by_cases hcap : q.base vs ≤ vs.length ∧ limit.toNat ≤ vs.length - q.base vs
    · omega
    · rw [hk] at h
      exact Turn.noConfusion ((if_neg hcap).symm.trans h)

/-- **Numbers that hold no more causes than there are of them are enough** — from any dice that are
their beginning, the turns come to an end within them. -/
theorem exists_runs {limit : Int} {ws : List Pips} (hcauses : (q.causes ws).length ≤ ws.length)
    (hcap : (q.bursts ws).length ≤ limit.toNat) (rest : List Pips) (dice : List Die)
    (hws : dice.map (·.value) ++ rest = ws) :
    ∃ more, q.Runs limit dice more ∧ more.map (·.value) <+: rest := by
  induction rest generalizing dice with
  | nil =>
    rw [List.append_nil] at hws
    exact ⟨[], turn_eq_finish_iff.2 (hws ▸ hcauses), List.prefix_rfl⟩
  | cons v rest ih =>
    have hfront : dice.map (·.value) <+: ws := ⟨v :: rest, hws⟩
    cases hturn : q.turn limit (dice.map (·.value)) with
    | finish => exact ⟨[], hturn, List.nil_prefix⟩
    | runaway =>
      have := limit_lt_of_runaway hturn
      have := bursts_length_mono (q := q) hfront
      omega
    | roll o i =>
      obtain ⟨more, hruns, hmore⟩ := ih (dice ++ [⟨v, o, i⟩]) (by simpa using hws)
      exact ⟨⟨v, o, i⟩ :: more, ⟨hturn, hruns⟩, List.prefix_cons_inj v |>.2 hmore⟩

/-! ## What the dice come to -/

/-- The successes that numbers are: a chance die succeeds on a ten. -/
def score (q : Request) (vs : List Pips) : Int :=
  if q.isChance then if vs.any fun v => v.count = chanceSuccessAt then 1 else 0
  else vs.countP fun v => successAt ≤ v.count

theorem result_successes (q : Request) (dice : List Die) :
    (q.result dice).successes = q.score (dice.map (·.value)) := by
  cases hc : q.isChance with
  | true => simp [result, score, hc, Function.comp_def]
  | false =>
    rw [result_of_pool hc, score, hc, if_neg Bool.false_ne_true, List.countP_map]
    rfl

/-- **More numbers score no less for the larger request** — also if only the smaller one asks for a
chance die, since a ten is a success of either. -/
theorem Within.score_le (h : q.Within q') {vs ws : List Pips} (hpre : vs <+: ws) :
    q.score vs ≤ q'.score ws := by
  cases hc : q.isChance with
  | false =>
    rw [score, score, hc, h.isChance hc, if_neg Bool.false_ne_true, if_neg Bool.false_ne_true]
    exact Int.ofNat_le.2 hpre.sublist.countP_le
  | true =>
    rw [score, if_pos hc]
    split
    next hten =>
      obtain ⟨v, hv, hcount⟩ := List.any_eq_true.1 hten
      have hws := hpre.subset hv
      rw [score]
      split
      · exact Int.le_of_eq (if_pos (List.any_eq_true.2 ⟨v, hws, hcount⟩)).symm
      · refine Int.ofNat_le.2 (List.countP_pos_iff.2 ⟨v, hws, ?_⟩)
        rw [of_decide_eq_true hcount]
        decide
    next =>
      rw [score]
      split
      · split <;> decide
      · exact Int.natCast_nonneg _

end Request

open Request

variable {σ : Type} [Source σ]

/-- **Asking for more never does worse** — if the larger request has a result, so has the smaller
one, from the same source: its numbers are the first of the other's, and neither its successes nor
its explosions are more. -/
theorem resolve_of_within {q q' : Request} (h : q.Within q') {limit : Int} {s s₁ : σ} {r' : Result}
    (hr : (resolve q' limit).playOn s = (.ok r', s₁)) :
    ∃ r t, (resolve q limit).playOn s = (.ok r, t) ∧ r.values <+: r'.values
      ∧ r.successes ≤ r'.successes ∧ r.explodedCount ≤ r'.explodedCount := by
  obtain ⟨dice', hruns', hvalid', hhands', rfl⟩ := resolve_playOn_eq_ok_iff_runs.1 hr
  obtain ⟨hcauses', -, hcap'⟩ := runs_iff_causes.1 hruns'
  have hsize : (q'.causes (dice'.map (·.value))).length = (dice'.map (·.value)).length := by
    rw [← hcauses', List.length_map, List.length_map]
  obtain ⟨dice, hruns, hbegin⟩ := exists_runs
    (Nat.le_trans (h.length_causes_le _) (Nat.le_of_eq hsize))
    (Nat.le_trans (h.bursts_le _) hcap') (dice'.map (·.value)) [] rfl
  have hws : ∀ v ∈ dice'.map (·.value), 1 ≤ v.count ∧ v.count ≤ 10 := List.forall_mem_map.2 hvalid'
  have hvalid : ∀ d ∈ dice, 1 ≤ d.value.count ∧ d.value.count ≤ 10 := fun d hd =>
    hws d.value (hbegin.subset (List.mem_map_of_mem hd))
  obtain ⟨t, hhands⟩ : ∃ t, Hands s (dice.map (·.value)) t := by
    obtain ⟨rest, hrest⟩ := hbegin
    rw [← hrest, hands_append_iff] at hhands'
    exact hhands'.imp fun _ => And.left
  refine ⟨q.result dice, t,
    resolve_playOn_eq_ok_iff_runs.2 ⟨dice, hruns, hvalid, hhands, rfl⟩, ?_, ?_, ?_⟩
  · rwa [result_values, result_values]
  · rw [result_successes, result_successes]
    exact h.score_le hbegin
  · rw [hruns.explodedCount, hruns'.explodedCount]
    exact Int.ofNat_le.2 (Nat.le_trans (bursts_length_mono hbegin) (h.bursts_le _))

/-- The face that the larger request rolls for a failure is an explosion of the smaller one. -/
theorem resolve_of_within_rote_eightAgain :
    let q : Request := { poolSize := 3 }
    let q' : Request := { poolSize := 3, rote := true, eightAgain := true }
    let s := Script.ofList ([8, 3, 10, 9, 2, 4, 1].map fun n => Face.pips (.number n))
    let r' : Result := {
      dice := [⟨.number 8, .initial, none⟩, ⟨.number 3, .initial, none⟩,
        ⟨.number 10, .initial, none⟩, ⟨.number 9, .roteReroll, some 1⟩,
        ⟨.number 2, .explosion, some 0⟩, ⟨.number 4, .explosion, some 2⟩,
        ⟨.number 1, .explosion, some 3⟩]
      successes := 3
      explodedCount := 3 }
    q.Within q' ∧ (resolve q' 3).playOn s = (.ok r', ⟨7, []⟩)
      ∧ ∃ r t, (resolve q 3).playOn s = (.ok r, t) ∧ r.values <+: r'.values
        ∧ r.successes ≤ 3 ∧ r.explodedCount ≤ 3 := by
  intro q q' s r'
  have h : q.Within q' := by constructor <;> decide
  have hr : (resolve q' 3).playOn s = (.ok r', ⟨7, []⟩) :=
    resolve_playOn_eq_ok_iff_runs.2
      ⟨r'.dice, runs_iff_causes.2 ⟨by decide, by decide, by decide⟩, by decide, rfl, by decide⟩
  exact ⟨h, hr, resolve_of_within h hr⟩

end DicePool
