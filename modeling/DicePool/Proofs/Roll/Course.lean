import DicePool.Proofs.Roll.Playing

/-!
# Proofs/Roll/Course — a roll, one die at a time

What falls next depends on nothing but the numbers that fell already: `Request.turn` says whether
another die is rolled and why, whether the roll is over, or whether it has run away.
`Request.course` takes turns until there is no other, and `resolve_eq_course` says that this is the
roll: the three passes over the table (pool, re-rolls, explosions) are one loop.

The engine is `getElem?_findIdxs_eq_some_iff`: which place is found `n`-th is decided by the numbers
up to that place, so that a die is the answer to the same call whatever is rolled later.
-/

namespace DicePool

/-! ## Places -/

/-- **The place found `n`-th is one that has `n` before it.** -/
theorem getElem?_findIdxs_eq_some_iff {α : Type} {p : α → Bool} {xs : List α} {n i : Nat} :
    (xs.findIdxs p)[n]? = some i ↔ ∃ h : i < xs.length, p xs[i] ∧ (xs.take i).countP p = n := by
  induction xs generalizing n i with
  | nil => simp
  | cons x xs ih =>
    rw [List.findIdxs_cons, Nat.zero_add, List.findIdxs_start]
    cases i with
    | zero => cases n <;> by_cases hx : p x <;> simp [hx]
    | succ i =>
      simp only [List.length_cons, List.getElem_cons_succ, List.take_succ_cons, List.countP_cons,
        Nat.add_lt_add_iff_right]
      cases n with
      | zero => by_cases hx : p x <;> simp [hx, ih]
      | succ n => by_cases hx : p x <;> simp [hx, ih]

/-- **Among the first numbers the same places are found**, as far as they reach. -/
theorem getElem?_findIdxs_take {α : Type} {p : α → Bool} {xs : List α} {n i k : Nat} :
    ((xs.take k).findIdxs p)[n]? = some i ↔ i < k ∧ (xs.findIdxs p)[n]? = some i := by
  simp only [getElem?_findIdxs_eq_some_iff, List.length_take, List.getElem_take, List.take_take,
    Nat.lt_min]
  constructor
  · rintro ⟨⟨hk, hl⟩, hp, hn⟩
    exact ⟨hk, hl, hp, by rwa [Nat.min_eq_left (Nat.le_of_lt hk)] at hn⟩
  · rintro ⟨hk, hl, hp, hn⟩
    exact ⟨⟨hk, hl⟩, hp, by rwa [Nat.min_eq_left (Nat.le_of_lt hk)]⟩

/-- A filter of the places of a list finds the same. -/
theorem filter_range_eq_findIdxs {α : Type} (p : α → Bool) (xs : List α) :
    ((List.range xs.length).filter fun i => xs[i]?.any p) = xs.findIdxs p := by
  induction xs with
  | nil => rfl
  | cons x xs ih =>
    rw [List.length_cons, List.range_succ_eq_map, List.filter_cons, List.filter_map,
      List.findIdxs_cons, Nat.zero_add, List.findIdxs_start, ← ih]
    rfl

/-- What happens after some dice have fallen. -/
inductive Turn where
  /-- Another die is rolled. -/
  | roll (origin : Origin) (trigger : Option Int)
  /-- The roll is over. -/
  | finish
  /-- A die explodes that must not. -/
  | runaway
deriving DecidableEq, Repr

namespace Request

/-! ## What the numbers call for -/

/-- How many dice are rolled at first: a chance die is one. -/
def opening (q : Request) : Nat :=
  if q.isChance then 1 else q.poolSize.toNat

/-- The places of the dice that are rolled again. -/
def rerolls (q : Request) (vs : List Pips) : List Nat :=
  if !q.isChance && q.rote then (vs.take q.opening).findIdxs fun v => v.count < successAt else []

/-- How many dice are rolled before any explodes. -/
def base (q : Request) (vs : List Pips) : Nat :=
  q.opening + (q.rerolls vs).length

/-- Whether a die that shows this adds another. -/
def explodes (q : Request) (v : Pips) : Bool :=
  !q.isChance && q.threshold.any fun t : Nat => (t : Int) ≤ v.count

/-- The places of the dice that add another. -/
def bursts (q : Request) (vs : List Pips) : List Nat :=
  vs.findIdxs q.explodes

@[simp] theorem length_bursts {q : Request} {vs : List Pips} :
    (q.bursts vs).length = vs.countP q.explodes :=
  List.length_findIdxs

/-- What happens once the numbers `vs` have fallen. -/
def turn (q : Request) (limit : Int) (vs : List Pips) : Turn :=
  if vs.length < q.opening then .roll .initial none
  else match (q.rerolls vs)[vs.length - q.opening]? with
    | some i => .roll .roteReroll (some i)
    | none => match (q.bursts vs)[vs.length - q.base vs]? with
      | none => .finish
      | some i =>
        if limit.toNat ≤ vs.length - q.base vs then .runaway else .roll .explosion (some i)

/-- What the dice on the table come to. -/
def result (q : Request) (dice : List Die) : Result :=
  if q.isChance then {
    dice
    successes := if dice.any fun d => d.value.count = chanceSuccessAt then 1 else 0
    isChance := true
    isBotch := dice.any fun d => d.value.count = chanceBotchAt }
  else {
    dice
    successes := dice.countP Die.succeeds
    explodedCount := dice.length - q.base (dice.map (·.value)) }

@[simp] theorem result_dice (q : Request) (dice : List Die) : (q.result dice).dice = dice := by
  unfold result
  split <;> rfl

@[simp] theorem result_values (q : Request) (dice : List Die) :
    (q.result dice).values = dice.map (·.value) := by
  rw [Result.values, result_dice]

variable {q : Request}

theorem base_le (q : Request) (vs : List Pips) : q.base vs ≤ 2 * q.opening := by
  have h : (q.rerolls vs).length ≤ q.opening := by
    unfold rerolls
    split
    · rw [List.length_findIdxs]
      exact Nat.le_trans List.countP_le_length (List.length_take_le _ _)
    · exact Nat.zero_le _
  simp only [base]
  omega

/-- **A die is only rolled below the bound** — the pool, each of its dice once more, and the
explosions that are allowed. -/
theorem length_lt_of_turn {limit : Int} {vs : List Pips} {o : Origin} {i : Option Int}
    (h : q.turn limit vs = .roll o i) : vs.length < 2 * q.opening + limit.toNat := by
  have hb := q.base_le vs
  unfold turn at h
  split at h
  · omega
  · split at h
    next hr =>
      have := (List.getElem?_eq_some_iff.1 hr).1
      simp only [base] at hb
      omega
    next =>
      split at h
      · cases h
      · split at h
        · cases h
        · omega

/-! ## Taking turns -/

variable {σ : Type} [Source σ]

/-- Rolls on after the dice on the table, one die at a time. -/
def course (q : Request) (limit : Int) (dice : List Die) : RollM σ Result :=
  match h : q.turn limit (dice.map (·.value)) with
  | .finish => pure (q.result dice)
  | .runaway => throw (.ofLimit limit)
  | .roll origin trigger => do
    let p ← drawPips
    course q limit (dice ++ [⟨p, origin, trigger⟩])
termination_by 2 * q.opening + limit.toNat - dice.length
decreasing_by
  have := length_lt_of_turn h
  simp only [List.length_map] at this
  simp only [List.length_append, List.length_singleton]
  omega

theorem course_of_finish {limit : Int} {dice : List Die}
    (h : q.turn limit (dice.map (·.value)) = .finish) :
    (q.course limit dice : RollM σ Result) = pure (q.result dice) := by
  rw [course]
  split <;> simp_all

theorem course_of_runaway {limit : Int} {dice : List Die}
    (h : q.turn limit (dice.map (·.value)) = .runaway) :
    (q.course limit dice : RollM σ Result) = throw (.ofLimit limit) := by
  rw [course]
  split <;> simp_all

theorem course_of_roll {limit : Int} {dice : List Die} {o : Origin} {i : Option Int}
    (h : q.turn limit (dice.map (·.value)) = .roll o i) :
    (q.course limit dice : RollM σ Result)
      = drawPips >>= fun p => q.course limit (dice ++ [⟨p, o, i⟩]) := by
  rw [course]
  split <;> simp_all

/-! ## Turns by phase

The three ways in which a turn goes on, one for each pass over the table. -/

theorem turn_of_lt_opening {limit : Int} {vs : List Pips} (h : vs.length < q.opening) :
    q.turn limit vs = .roll .initial none := if_pos h

theorem turn_of_reroll {limit : Int} {vs : List Pips} {i : Nat} (h : q.opening ≤ vs.length)
    (hi : (q.rerolls vs)[vs.length - q.opening]? = some i) :
    q.turn limit vs = .roll .roteReroll (some i) := by
  rw [turn, if_neg (Nat.not_lt.2 h), hi]

theorem turn_of_base_le {limit : Int} {vs : List Pips} (h : q.base vs ≤ vs.length) :
    q.turn limit vs = match (q.bursts vs)[vs.length - q.base vs]? with
      | none => .finish
      | some i =>
        if limit.toNat ≤ vs.length - q.base vs then .runaway else .roll .explosion (some i) := by
  have ho : q.opening ≤ vs.length := Nat.le_trans (Nat.le_add_right _ _) h
  have hr : (q.rerolls vs)[vs.length - q.opening]? = none := by
    rw [List.getElem?_eq_none_iff]
    simp only [base] at h
    omega
  rw [turn, if_neg (Nat.not_lt.2 ho), hr]

/-- **Once the pool lies on the table, its re-rolls are known.** -/
theorem rerolls_append {vs : List Pips} (ws : List Pips) (h : q.opening ≤ vs.length) :
    q.rerolls (vs ++ ws) = q.rerolls vs := by
  rw [rerolls, rerolls, List.take_append_of_le_length h]

theorem base_append {vs : List Pips} (ws : List Pips) (h : q.opening ≤ vs.length) :
    q.base (vs ++ ws) = q.base vs := by
  rw [base, base, rerolls_append ws h]

/-! ## The passes are the course

Each pass is read from its end: the course from a table that it can meet is the pass from there on
and what comes after it.  The induction is on the pass, and its invariant says how many dice the
turns so far have called for. -/

theorem explodes_eq {t : Nat} (hc : q.isChance = false) (ht : q.threshold = some t) (v : Pips) :
    q.explodes v = decide ((t : Int) ≤ v.count) := by
  simp [explodes, hc, ht]

theorem countP_take_succ {dice : Array Die} {i : Nat} (hi : i < dice.size) :
    ((dice.toList.map (·.value)).take (i + 1)).countP q.explodes
      = ((dice.toList.map (·.value)).take i).countP q.explodes
        + if q.explodes dice[i].value then 1 else 0 := by
  rw [List.take_succ_eq_append_getElem (by simpa using hi), List.countP_append, List.countP_singleton]
  simp

/-- Explosions have been looked for up to a place: `n` dice are not explosions, and of those in front of
the place as many explode as were added. -/
structure IsWalking (q : Request) (n i : Nat) (dice : Array Die) : Prop where
  base : q.base (dice.toList.map (·.value)) = n
  opening : q.opening ≤ n
  size : n ≤ dice.size
  met : ((dice.toList.map (·.value)).take i).countP q.explodes = dice.size - n

namespace IsWalking

variable {limit : Int} {n i : Nat} {dice : Array Die}

/-- The turn depends on the die that explodes next, if there is one. -/
theorem turn_eq (h : q.IsWalking n i dice) :
    q.turn limit (dice.toList.map (·.value))
      = match (q.bursts (dice.toList.map (·.value)))[dice.size - n]? with
        | none => .finish
        | some i => if limit.toNat ≤ dice.size - n then .runaway else .roll .explosion (some i) := by
  have hlen : (dice.toList.map (·.value)).length = dice.size := by simp
  rw [turn_of_base_le (by rw [h.base, hlen]; exact h.size), h.base, hlen]

/-- **A die that explodes calls for the next one**, unless too many were added already. -/
theorem turn_of_explodes (h : q.IsWalking n i dice) (hi : i < dice.size)
    (hexplodes : q.explodes dice[i].value) :
    q.turn limit (dice.toList.map (·.value))
      = if limit.toNat ≤ dice.size - n then .runaway else .roll .explosion (some i) := by
  have hburst : (q.bursts (dice.toList.map (·.value)))[dice.size - n]? = some i :=
    getElem?_findIdxs_eq_some_iff.2 ⟨by simpa using hi, by simpa using hexplodes, h.met⟩
  rw [h.turn_eq, hburst]

/-- Where no die is left, the roll is over. -/
theorem turn_of_size_le (h : q.IsWalking n i dice) (hi : dice.size ≤ i) :
    q.turn limit (dice.toList.map (·.value)) = .finish := by
  have hall := h.met
  rw [List.take_of_length_le (by simpa using hi), ← length_bursts] at hall
  rw [h.turn_eq, List.getElem?_eq_none (Nat.le_of_eq hall)]

/-- A die that does not explode is passed. -/
theorem skip (h : q.IsWalking n i dice) (hi : i < dice.size)
    (hexplodes : q.explodes dice[i].value = false) : q.IsWalking n (i + 1) dice where
  base := h.base
  opening := h.opening
  size := h.size
  met := by rw [countP_take_succ hi, hexplodes, h.met]; rfl

/-- A die that explodes is passed with the die that it adds. -/
theorem push (h : q.IsWalking n i dice) (hi : i < dice.size) (hexplodes : q.explodes dice[i].value)
    (d : Die) : q.IsWalking n (i + 1) (dice.push d) where
  base := by
    rw [Array.toList_push, List.map_append, base_append _ (by simpa using Nat.le_trans h.opening h.size),
      h.base]
  opening := h.opening
  size := by rw [Array.size_push]; exact Nat.le_succ_of_le h.size
  met := by
    rw [Array.toList_push, List.map_append, List.take_append_of_le_length (by simpa using Nat.succ_le_of_lt hi),
      countP_take_succ hi, hexplodes, h.met, Array.size_push, Nat.sub_add_comm h.size]
    rfl

end IsWalking

/-- **The explosions are the course once the first dice lie.** -/
theorem course_eq_explode {limit : Int} {t : Nat} (hc : q.isChance = false)
    (ht : q.threshold = some t) {n left i : Nat} {dice : Array Die} (h : q.IsWalking n i dice)
    (hleft : left + (dice.size - n) = limit.toNat) :
    (q.course limit dice.toList : RollM σ Result)
      = explode t limit left i dice >>= fun dice => pure {
          dice := dice.toList
          successes := dice.toList.countP Die.succeeds
          explodedCount := dice.size - n } := by
  induction left, i, dice using explode.induct t with
  | case1 left i dice hi hlow ih =>
    rw [explode.eq_def, dif_pos hi, if_pos hlow]
    exact ih (h.skip hi (by simpa [explodes_eq hc ht] using hlow)) hleft
  | case2 i dice hi hhigh =>
    have hexplodes : q.explodes dice[i].value := by simpa [explodes_eq hc ht] using hhigh
    have hturn : q.turn limit (dice.toList.map (·.value)) = .runaway := by
      rw [h.turn_of_explodes hi hexplodes]
      exact if_pos (by omega)
    rw [explode.eq_def, dif_pos hi, if_neg hhigh, RollM.throw_bind, course_of_runaway hturn]
  | case3 i dice hi hhigh left ih =>
    have hexplodes : q.explodes dice[i].value := by simpa [explodes_eq hc ht] using hhigh
    have hturn : q.turn limit (dice.toList.map (·.value)) = .roll .explosion (some i) := by
      rw [h.turn_of_explodes hi hexplodes]
      exact if_neg (by omega)
    rw [explode.eq_def, dif_pos hi, if_neg hhigh, bind_assoc, course_of_roll hturn]
    refine congrArg (drawPips >>= ·) (funext fun p => ?_)
    rw [← Array.toList_push]
    refine ih p (h.push hi hexplodes _) ?_
    have hsize := h.size
    rw [Array.size_push]
    omega
  | case4 left i dice hi =>
    have hturn : q.turn limit (dice.toList.map (·.value)) = .finish :=
      h.turn_of_size_le (Nat.le_of_not_lt hi)
    rw [explode.eq_def, dif_neg hi, pure_bind, course_of_finish hturn]
    simp [result, hc, h.base]

/-- The last pass: explosions, and what the dice come to. -/
def settle (q : Request) (limit : Int) (rolled : Array Die) : RollM σ Result := do
  let dice ← match q.threshold with
    | none => pure rolled
    | some t => explode t limit limit.toNat 0 rolled
  return {
    dice := dice.toList
    successes := dice.toList.countP Die.succeeds
    explodedCount := dice.size - rolled.size }

theorem course_eq_settle {limit : Int} (hc : q.isChance = false) {rolled : Array Die}
    (hb : q.base (rolled.toList.map (·.value)) = rolled.size) :
    (q.course limit rolled.toList : RollM σ Result) = q.settle limit rolled := by
  rw [settle]
  cases ht : q.threshold with
  | none =>
    have hturn : q.turn limit (rolled.toList.map (·.value)) = .finish := by
      rw [turn_of_base_le (by simp [hb])]
      simp [bursts, explodes, ht, List.findIdxs_eq_nil_iff.2]
    rw [course_of_finish hturn, pure_bind]
    simp [result, hc, hb]
  | some t =>
    have hwalking : q.IsWalking rolled.size 0 rolled := {
      base := hb
      opening := Nat.le_trans (Nat.le_add_right _ _) (Nat.le_of_eq hb)
      size := Nat.le.refl
      met := by simp }
    exact course_eq_explode hc ht hwalking (by omega)

/-- **The re-rolls are the course once the pool lies** — the places left are the last ones. -/
theorem course_eq_rollAgain {limit : Int} (hc : q.isChance = false) (places : List Nat)
    (dice : Array Die) (ho : q.opening ≤ dice.size)
    (hleft : places = (q.rerolls (dice.toList.map (·.value))).drop (dice.size - q.opening))
    (hsize : dice.size + places.length = q.base (dice.toList.map (·.value))) :
    (q.course limit dice.toList : RollM σ Result)
      = rollAgain places dice >>= q.settle limit := by
  induction places, dice using rollAgain.induct with
  | case1 dice =>
    rw [rollAgain, pure_bind]
    exact course_eq_settle hc hsize.symm
  | case2 i places dice ih =>
    have hturn : q.turn limit (dice.toList.map (·.value)) = .roll .roteReroll (some i) := by
      refine turn_of_reroll (by simpa using ho) ?_
      rw [← List.head?_drop, List.length_map, Array.length_toList, ← hleft]
      rfl
    rw [course_of_roll hturn, rollAgain, bind_assoc]
    refine congrArg (drawPips >>= ·) (funext fun p => ?_)
    have hlen : q.opening ≤ (dice.toList.map (·.value)).length := by simpa using ho
    rw [← Array.toList_push]
    refine ih p ?_ ?_ ?_
    · rw [Array.size_push]
      omega
    · rw [Array.toList_push, List.map_append, rerolls_append _ hlen, Array.size_push,
        Nat.sub_add_comm ho, ← List.tail_drop, ← hleft]
      rfl
    · rw [Array.toList_push, List.map_append, base_append _ hlen, ← hsize, Array.size_push,
        List.length_cons]
      omega

theorem failures_eq_findIdxs (dice : Array Die) :
    failures dice = (dice.toList.map (·.value)).findIdxs fun v => v.count < successAt := by
  have hfail : (fun d : Die => !d.succeeds)
      = (fun v : Pips => decide (v.count < successAt)) ∘ (·.value) :=
    funext fun d => by
      simp only [Die.succeeds, Function.comp_apply, ← Int.not_le, decide_not]
  rw [List.findIdxs_map, ← hfail, ← filter_range_eq_findIdxs, failures]
  simp only [Array.length_toList, Array.getElem?_toList]

theorem rerolls_eq_failures (hc : q.isChance = false) {pool : Array Die}
    (hsize : pool.size = q.opening) :
    q.rerolls (pool.toList.map (·.value)) = if q.rote then failures pool else [] := by
  rw [rerolls, List.take_of_length_le (by simp [hsize]), failures_eq_findIdxs]
  simp [hc]

/-- **The pool is the course from the empty table.** -/
theorem course_eq_rollPool {limit : Int} (hc : q.isChance = false) (n : Nat) (dice : Array Die)
    (hsize : dice.size + n = q.opening) :
    (q.course limit dice.toList : RollM σ Result)
      = rollPool n dice >>= fun pool =>
        (if q.rote then rollAgain (failures pool) pool else pure pool) >>= q.settle limit := by
  induction n, dice using rollPool.induct with
  | case1 dice =>
    have hr := rerolls_eq_failures hc hsize
    have hlen := congrArg List.length hr
    rw [rollPool, pure_bind]
    cases hrote : q.rote with
    | true =>
      simp only [hrote, if_true] at hr hlen ⊢
      refine course_eq_rollAgain hc _ dice (Nat.le_of_eq hsize.symm) ?_ ?_
      · rw [hr, ← hsize, Nat.add_zero, Nat.sub_self, List.drop_zero]
      · rw [base, hlen, ← hsize, Nat.add_zero]
    | false =>
      simp only [hrote, Bool.false_eq_true, if_false] at hr hlen ⊢
      rw [pure_bind]
      exact course_eq_settle hc (by rw [base, hr, ← hsize]; rfl)
  | case2 n dice ih =>
    have hturn : q.turn limit (dice.toList.map (·.value)) = .roll .initial none := by
      refine turn_of_lt_opening ?_
      rw [List.length_map, Array.length_toList]
      omega
    rw [course_of_roll hturn, rollPool, bind_assoc]
    refine congrArg (drawPips >>= ·) (funext fun p => ?_)
    rw [← Array.toList_push]
    refine ih p ?_
    rw [Array.size_push]
    omega

/-- **A chance die is the course of its request.** -/
theorem course_eq_rollChance {limit : Int} (hc : q.isChance = true) :
    (q.course limit [] : RollM σ Result) = rollChance := by
  have hopening : q.opening = 1 := by simp [opening, hc]
  have hfirst : q.turn limit [] = .roll .initial none := turn_of_lt_opening (by simp [hopening])
  have hlast : ∀ p, q.turn limit [p] = .finish := fun p => by
    simp [turn, rerolls, bursts, explodes, hopening, hc]
  rw [course_of_roll hfirst, rollChance]
  refine congrArg (drawPips >>= ·) (funext fun p => ?_)
  rw [List.nil_append, course_of_finish (hlast p)]
  simp [result, hc]

/-- **A roll is its course** — the passes over the table are one loop that takes turns. -/
theorem resolve_eq_course (q : Request) (limit : Int) :
    (resolve q limit : RollM σ Result) = q.course limit [] := by
  cases hc : q.isChance with
  | true => rw [resolve, if_pos hc, course_eq_rollChance hc]
  | false =>
    have hpool : (q.course limit (#[] : Array Die).toList : RollM σ Result) = _ :=
      course_eq_rollPool hc q.poolSize.toNat #[] (by simp [opening, hc])
    rw [Array.toList_empty] at hpool
    rw [hpool, resolve, if_neg (by simp [hc])]
    refine congrArg (rollPool _ _ >>= ·) (funext fun pool => ?_)
    cases q.rote with
    | true => rfl
    | false =>
      rw [if_neg Bool.false_ne_true, if_neg Bool.false_ne_true, pure_bind, pure_bind]
      rfl

/-! ## Runs

The dice of a course, each called for by those before it. -/

/-- From the dice on the table on, the turns roll the dice `more` and then finish. -/
def Runs (q : Request) (limit : Int) (dice : List Die) : List Die → Prop
  | [] => q.turn limit (dice.map (·.value)) = .finish
  | d :: more =>
    q.turn limit (dice.map (·.value)) = .roll d.origin d.trigger ∧ q.Runs limit (dice ++ [d]) more

/-- **A course has a result just in case its dice are handed out** — the numbers of a run, each one
of a die, are the next faces of the source. -/
theorem course_playOn_eq_ok_iff {limit : Int} {dice : List Die} {s s' : σ} {r : Result} :
    (q.course limit dice).playOn s = (.ok r, s')
      ↔ ∃ more, q.Runs limit dice more ∧ (∀ d ∈ more, 1 ≤ d.value.count ∧ d.value.count ≤ 10)
        ∧ Hands s (more.map (·.value)) s' ∧ r = q.result (dice ++ more) := by
  induction dice using course.induct q limit generalizing s with
  | case1 dice hturn =>
    rw [course_of_finish hturn, RollM.playOn_pure]
    constructor
    · rintro ⟨⟩
      exact ⟨[], hturn, by simp, hands_nil_iff.2 rfl, by rw [List.append_nil]⟩
    · rintro ⟨_ | ⟨d, more⟩, hruns, -, hhands, rfl⟩
      · rw [List.append_nil, hands_nil_iff.1 hhands]
      · exact absurd (hturn.symm.trans hruns.1) Turn.noConfusion
  | case2 dice hturn =>
    rw [course_of_runaway hturn, RollM.playOn_throw]
    constructor
    · rintro ⟨⟩
    · rintro ⟨_ | ⟨d, more⟩, hruns, -, -, -⟩
      · exact absurd (hturn.symm.trans hruns) Turn.noConfusion
      · exact absurd (hturn.symm.trans hruns.1) Turn.noConfusion
  | case3 dice o i hturn ih =>
    rw [course_of_roll hturn, RollM.playOn_bind_eq_ok_iff]
    simp only [drawPips_playOn_eq_ok_iff, ih]
    constructor
    · rintro ⟨p, t, ⟨hdraw, hp⟩, more, hruns, hvalid, hhands, rfl⟩
      refine ⟨⟨p, o, i⟩ :: more, ⟨hturn, hruns⟩, ?_, hands_cons_iff.2 ⟨t, hdraw, hhands⟩, ?_⟩
      · exact List.forall_mem_cons.2 ⟨hp, hvalid⟩
      · rw [List.append_assoc, List.singleton_append]
    · rintro ⟨_ | ⟨d, more⟩, hruns, hvalid, hhands, rfl⟩
      · exact absurd (hturn.symm.trans hruns) Turn.noConfusion
      · obtain ⟨t, hdraw, hrest⟩ := hands_cons_iff.1 hhands
        obtain ⟨hd, hmore⟩ := List.forall_mem_cons.1 hvalid
        obtain ⟨rfl, rfl⟩ := Turn.roll.inj (hturn.symm.trans hruns.1)
        refine ⟨d.value, t, ⟨hdraw, hd⟩, more, hruns.2, hmore, hrest, ?_⟩
        rw [List.append_assoc, List.singleton_append]

/-- **Of a run from the empty table, each die is called for by the numbers before it.** -/
theorem runs_nil_iff {limit : Int} {dice : List Die} :
    q.Runs limit [] dice
      ↔ (∀ k d, dice[k]? = some d →
          q.turn limit ((dice.map (·.value)).take k) = .roll d.origin d.trigger)
        ∧ q.turn limit (dice.map (·.value)) = .finish := by
  suffices h : ∀ more front : List Die, q.Runs limit front more
      ↔ (∀ k d, more[k]? = some d →
          q.turn limit ((front ++ more.take k).map (·.value)) = .roll d.origin d.trigger)
        ∧ q.turn limit ((front ++ more).map (·.value)) = .finish by
    simpa [List.map_take] using h dice []
  intro more
  induction more with
  | nil => simp [Runs]
  | cons d more ih =>
    intro front
    rw [Runs, ih]
    conv_rhs => rw [← Nat.and_forall_add_one, and_assoc]
    simp

/-- **A roll has a result just in case its dice are handed out.** -/
theorem resolve_playOn_eq_ok_iff_runs {limit : Int} {s s' : σ} {r : Result} :
    (resolve q limit).playOn s = (.ok r, s')
      ↔ ∃ dice, q.Runs limit [] dice ∧ (∀ d ∈ dice, 1 ≤ d.value.count ∧ d.value.count ≤ 10)
        ∧ Hands s (dice.map (·.value)) s' ∧ r = q.result dice := by
  simp only [resolve_eq_course, course_playOn_eq_ok_iff, List.nil_append]

end Request

end DicePool
