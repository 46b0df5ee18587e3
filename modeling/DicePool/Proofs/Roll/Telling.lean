import DicePool.Proofs.Roll.Layout
import DicePool.Roll.Audit
import DicePool.Roll.Render

/-!
# Proofs/Roll/Telling — which rolls can be told

A roll is told twice: by its fingerprint, which takes whole numbers of 64 bits, and as a line of
chat, which takes any number that can be written. Whatever can be told in the first way can be told
in the second (`exists_render`), and most rolls can be told in both: `Runs.all_inAuditRange_iff`
says that only the pool of a chance die is ever too low for a fingerprint, unless there are too many
dice to be counted.
-/

namespace DicePool

/-! ## Lines of chat -/

/-- Steps that all have a result have one after the other. -/
theorem exists_mapM_eq_ok {α β ε : Type} {f : α → Except ε β} :
    ∀ {l : List α}, (∀ x ∈ l, ∃ y, f x = .ok y) → ∃ ys, l.mapM f = .ok ys
  | [], _ => ⟨[], rfl⟩
  | x :: l, h => by
    rw [List.forall_mem_cons] at h
    obtain ⟨⟨y, hy⟩, hl⟩ := h
    obtain ⟨ys, hys⟩ := exists_mapM_eq_ok hl
    refine ⟨y :: ys, ?_⟩
    rw [List.mapM_cons, hy, hys]
    rfl

/-- A number of 64 bits has few enough digits to be written. -/
theorem natAbs_lt_of_inAuditRange {n : Int} (h : inAuditRange n) :
    n.natAbs < Nat.pow 10 Numeral.maxDigits := by
  have hbits : n.natAbs ≤ 0x10000000000000000 := by
    simp only [inAuditRange, Bool.and_eq_true, decide_eq_true_eq] at h
    omega
  have hdigits : n.natAbs < Nat.pow 10 20 := Nat.lt_of_le_of_lt hbits (by decide)
  exact Numeral.lt_pow_maxDigits hdigits (by decide)

namespace Result

variable {r : Result} {q : Request}

/-- **A roll with a fingerprint has a line of chat.** -/
theorem exists_render (h : (r.numbers (some q)).all inAuditRange) (mention : Option String) :
    ∃ line, r.render (some q) none mention = .ok line := by
  simp only [numbers, List.all_append, List.all_flatMap, List.all_cons, List.all_nil, Bool.and_true,
    Bool.and_eq_true, List.all_eq_true, Option.map_some, Option.toList_some] at h
  obtain ⟨⟨hdice, hsuccesses, -⟩, hpool⟩ := h
  obtain ⟨dice, hshown⟩ : ∃ dice, r.dice.mapM Die.text = .ok dice := by
    refine exists_mapM_eq_ok fun d hd => ?_
    obtain ⟨shown, hvalue⟩ := Pips.exists_text_of_lt (natAbs_lt_of_inAuditRange (hdice d hd).1)
    exact ⟨_, by rw [Die.text, hvalue]; rfl⟩
  have hpool := Numeral.write_of_lt (natAbs_lt_of_inAuditRange hpool)
  have hsuccesses := Numeral.write_of_lt (natAbs_lt_of_inAuditRange hsuccesses)
  simp only [render, hshown, poolText, hpool, hsuccesses]
  split <;> exact ⟨_, rfl⟩

end Result

/-! ## Fingerprints -/

namespace Request

variable {q : Request} {limit : Int} {dice : List Die}

/-- **The cause of a die is a die of the roll**, if it has one. -/
theorem trigger_bounds {vs : List Pips} {c : Origin × Option Int} (hc : c ∈ q.causes vs) :
    ∀ i ∈ c.2, 0 ≤ i ∧ i < vs.length := by
  have hrerolls : ∀ i ∈ q.rerolls vs, i < vs.length := by
    unfold rerolls
    split
    · exact fun i hi =>
        Nat.lt_of_lt_of_le (List.lt_add_of_mem_findIdxs i hi) (List.length_take_le' _ _)
    · simp
  have hbursts : ∀ i ∈ q.bursts vs, i < vs.length := List.lt_add_of_mem_findIdxs
  rw [causes, List.mem_append, List.mem_append] at hc
  rcases hc with (hc | hc) | hc
  · rw [List.eq_of_mem_replicate hc]
    simp
  · obtain ⟨i, hi, rfl⟩ := List.mem_map.1 hc
    simpa using hrerolls i hi
  · obtain ⟨i, hi, rfl⟩ := List.mem_map.1 hc
    simpa using hbursts i hi

/-- The successes are no more than the dice. -/
theorem successes_bounds (q : Request) (dice : List Die) :
    0 ≤ (q.result dice).successes ∧ (q.result dice).successes ≤ dice.length := by
  cases hc : q.isChance with
  | true =>
    simp only [result, hc, if_true]
    split
    next hten =>
      obtain ⟨d, hd, -⟩ := List.any_eq_true.1 hten
      have := List.length_pos_of_mem hd
      omega
    next => omega
  | false =>
    rw [result_of_pool hc]
    exact ⟨Int.natCast_nonneg _, Int.ofNat_le.2 List.countP_le_length⟩

/-- A pool is no larger than the dice that fall. -/
theorem Runs.poolSize_le (h : q.Runs limit [] dice) : q.poolSize ≤ dice.length := by
  have hsize := length_eq_of_causes (runs_iff_causes.1 h).1
  have hopening : q.poolSize ≤ q.opening := by
    unfold opening isChance
    split <;> rename_i hc <;> simp at hc <;> omega
  rw [base] at hsize
  omega

/-- **Of the numbers of a roll, only the pool may be negative, and none is much larger than the
number of dice.** -/
theorem Runs.numbers_bounds (h : q.Runs limit [] dice)
    (hvalid : ∀ d ∈ dice, 1 ≤ d.value.count ∧ d.value.count ≤ 10) :
    ∀ n ∈ (q.result dice).numbers (some q),
      (n = q.poolSize ∨ 0 ≤ n) ∧ n ≤ max 10 (dice.length : Int) := by
  have hcauses := (runs_iff_causes.1 h).1
  have hexploded : ((q.bursts (dice.map (·.value))).length : Int) ≤ dice.length := by
    simpa using Int.ofNat_le.2 (List.countP_le_length (p := q.explodes) (l := dice.map (·.value)))
  intro n hn
  simp only [Result.numbers, result_dice, List.mem_append, List.mem_flatMap, List.mem_cons,
    Option.mem_toList, List.not_mem_nil, or_false, Option.map_some, Option.toList_some] at hn
  rcases hn with (⟨d, hd, rfl | htrigger⟩ | rfl | rfl) | rfl
  · have := hvalid d hd
    omega
  · have hcause : d.cause ∈ q.causes (dice.map (·.value)) := hcauses ▸ List.mem_map_of_mem hd
    have := trigger_bounds hcause n htrigger
    rw [List.length_map] at this
    omega
  · have := successes_bounds q dice
    omega
  · rw [h.explodedCount]
    omega
  · have := h.poolSize_le
    omega

/-- **A roll has a fingerprint unless its pool is too low for it** — as long as the dice can be
counted in 64 bits. -/
theorem Runs.all_inAuditRange_iff (h : q.Runs limit [] dice)
    (hvalid : ∀ d ∈ dice, 1 ≤ d.value.count ∧ d.value.count ≤ 10)
    (hlen : dice.length < 0x10000000000000000) :
    ((q.result dice).numbers (some q)).all inAuditRange ↔ -0x8000000000000000 ≤ q.poolSize := by
  have hpool : q.poolSize ∈ (q.result dice).numbers (some q) := by simp [Result.numbers]
  simp only [List.all_eq_true, inAuditRange, Bool.and_eq_true, decide_eq_true_eq]
  constructor
  · exact fun hall => (hall _ hpool).1
  · intro hlow n hn
    obtain ⟨hneg, hle⟩ := h.numbers_bounds hvalid n hn
    omega

end Request

end DicePool
