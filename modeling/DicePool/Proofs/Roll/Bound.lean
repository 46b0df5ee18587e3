import DicePool.Proofs.Roll.Replay

/-!
# Proofs/Roll/Bound — how long a roll can take

A roll of `n` dice under a limit on explosions draws at most `2 * n + limit` times, from any source and
however it ends (`Draws.length_le`): the pool, each of its dice once more, and the explosions that are
allowed.

The walk over the dice feeds on dice that it adds itself, so that its length is not given when it
starts. It is bounded all the same: a walk that is cut off after so many rounds never notices
(`explodeWithin_eq`, `resolveWithin_eq`).
-/

namespace DicePool

variable {σ α : Type} [Source σ]

/-! ## Draws -/

namespace Request

variable {q : Request} {limit : Int} {dice : List Die} {s s' : σ} {faces : List Face}
  {outcome : Except RollError Result}

/-- **No roll draws more often than the bound** — not even to find that the source has no face left. -/
theorem Draws.length_le (h : q.Draws limit dice s faces outcome s')
    (hdice : dice.length ≤ 2 * q.opening + limit.toNat) :
    dice.length + (faces.length + (RollError.ranDry outcome).toNat)
      ≤ 2 * q.opening + limit.toNat := by
  induction h with
  | finish _ => exact hdice
  | runaway _ => rwa [RollError.ranDry_ofLimit]
  | exhausted hturn _ =>
    have hlt := length_lt_of_turn hturn
    rwa [List.length_map] at hlt
  | invalid hturn _ _ =>
    have hlt := length_lt_of_turn hturn
    rw [List.length_map] at hlt
    rwa [RollError.ranDry_ofFace]
  | die hturn _ _ _ ih =>
    have hlt := length_lt_of_turn hturn
    rw [List.length_map] at hlt
    have hrest := ih (by rwa [List.length_append, List.length_singleton])
    rw [List.length_append, List.length_singleton] at hrest
    rw [List.length_cons]
    omega

end Request

/-! ## Rounds -/

/-- The walk over the dice, cut off after so many rounds: nothing, if it has not come to its end by
then. -/
def explodeWithin (threshold : Nat) (limit : Int) (rounds left i : Nat) (dice : Array Die) :
    RollM σ (Option (Array Die)) := do
  if h : i < dice.size then
    match rounds with
    | 0 => pure none
    | rounds + 1 =>
      if dice[i].value.count < threshold then
        explodeWithin threshold limit rounds left (i + 1) dice
      else match left with
        | 0 => throw (.ofLimit limit)
        | left + 1 =>
          let p ← drawPips
          explodeWithin threshold limit rounds left (i + 1)
            (dice.push { value := p, origin := .explosion, trigger := some i })
  else pure (some dice)

/-- **A walk that is cut off late enough never notices** — each round passes a die, and adds one only
as long as one is allowed. -/
theorem explodeWithin_eq (threshold : Nat) (limit : Int) {rounds left i : Nat} {dice : Array Die}
    (h : left + (dice.size - i) ≤ rounds) :
    (explodeWithin threshold limit rounds left i dice : RollM σ (Option (Array Die)))
      = some <$> explode threshold limit left i dice := by
  induction left, i, dice using explode.induct threshold generalizing rounds with
  | case1 left i dice hi hlow ih =>
    obtain ⟨rounds, rfl⟩ := Nat.exists_eq_add_one_of_ne_zero (show rounds ≠ 0 by omega)
    rw [explode.eq_def, dif_pos hi, if_pos hlow, explodeWithin, dif_pos hi]
    dsimp only
    rw [if_pos hlow]
    exact ih (by omega)
  | case2 i dice hi hhigh =>
    obtain ⟨rounds, rfl⟩ := Nat.exists_eq_add_one_of_ne_zero (show rounds ≠ 0 by omega)
    rw [explode.eq_def, dif_pos hi, if_neg hhigh, explodeWithin, dif_pos hi]
    dsimp only
    rw [if_neg hhigh]
    rfl
  | case3 i dice hi hhigh left ih =>
    obtain ⟨rounds, rfl⟩ := Nat.exists_eq_add_one_of_ne_zero (show rounds ≠ 0 by omega)
    rw [explode.eq_def, dif_pos hi, if_neg hhigh, explodeWithin, dif_pos hi]
    dsimp only
    rw [if_neg hhigh, map_bind]
    refine congrArg (drawPips >>= ·) (funext fun p => ih p ?_)
    rw [Array.size_push]
    omega
  | case4 left i dice hi =>
    rw [explode.eq_def, dif_neg hi, explodeWithin.eq_def, dif_neg hi]
    rfl

/-- What follows on a pool need only be known for as many dice as it has. -/
theorem rollPool_bind_congr {f g : Array Die → RollM σ α} (n : Nat) (dice : Array Die)
    (h : ∀ pool : Array Die, pool.size = dice.size + n → f pool = g pool) :
    rollPool n dice >>= f = rollPool n dice >>= g := by
  induction n, dice using rollPool.induct with
  | case1 dice => rw [rollPool, pure_bind, pure_bind, h dice rfl]
  | case2 n dice ih =>
    rw [rollPool, bind_assoc, bind_assoc]
    refine congrArg (drawPips >>= ·) (funext fun p => ih p fun pool hpool => h pool ?_)
    rw [hpool, Array.size_push]
    omega

theorem rollAgain_bind_congr {f g : Array Die → RollM σ α} (places : List Nat) (dice : Array Die)
    (h : ∀ rolled : Array Die, rolled.size = dice.size + places.length → f rolled = g rolled) :
    rollAgain places dice >>= f = rollAgain places dice >>= g := by
  induction places, dice using rollAgain.induct with
  | case1 dice => rw [rollAgain, pure_bind, pure_bind, h dice rfl]
  | case2 i places dice ih =>
    rw [rollAgain, bind_assoc, bind_assoc]
    refine congrArg (drawPips >>= ·) (funext fun p => ih p fun rolled hrolled => h rolled ?_)
    rw [hrolled, Array.size_push, List.length_cons]
    omega

theorem length_failures_le (dice : Array Die) : (failures dice).length ≤ dice.size := by
  unfold failures
  exact Nat.le_trans (List.length_filter_le _ _) (Nat.le_of_eq List.length_range)

namespace Request

/-- The last pass, with the walk cut off after so many rounds. -/
def settleWithin (rounds : Nat) (q : Request) (limit : Int) (rolled : Array Die) :
    RollM σ (Option Result) := do
  let walked ← match q.threshold with
    | none => pure (some rolled)
    | some t => explodeWithin t limit rounds limit.toNat 0 rolled
  return walked.map fun dice => {
    dice := dice.toList
    successes := dice.toList.countP Die.succeeds
    explodedCount := dice.size - rolled.size }

theorem settleWithin_eq (q : Request) (limit : Int) {rounds : Nat} {rolled : Array Die}
    (h : rolled.size + limit.toNat ≤ rounds) :
    (q.settleWithin rounds limit rolled : RollM σ (Option Result))
      = some <$> q.settle limit rolled := by
  unfold settleWithin settle
  cases q.threshold with
  | none => rfl
  | some t =>
    dsimp only
    rw [explodeWithin_eq t limit (by omega), map_bind, bind_map_left]
    rfl

end Request

/-- A roll whose walk over the dice is cut off after so many rounds: nothing, if the walk has not come
to its end by then. -/
def resolveWithin (rounds : Nat) (q : Request) (limit : Int) : RollM σ (Option Result) := do
  if q.isChance then return some (← rollChance)
  else
    let pool ← rollPool q.poolSize.toNat #[]
    let rolled ← if q.rote then rollAgain (failures pool) pool else pure pool
    q.settleWithin rounds limit rolled

/-- **A roll that is cut off late enough never notices** — its walk begins with at most twice the pool
on the table. -/
theorem resolveWithin_eq (q : Request) (limit : Int) {rounds : Nat}
    (h : 2 * q.poolSize.toNat + limit.toNat ≤ rounds) :
    (resolveWithin rounds q limit : RollM σ (Option Result)) = some <$> resolve q limit := by
  unfold resolveWithin resolve
  cases q.isChance with
  | true => rfl
  | false =>
    simp only [Bool.false_eq_true, if_false, map_bind]
    refine rollPool_bind_congr _ _ fun pool hpool => ?_
    rw [Array.size_empty, Nat.zero_add] at hpool
    cases q.rote with
    | true =>
      rw [if_pos rfl, if_pos rfl, map_bind]
      refine rollAgain_bind_congr _ _ fun rolled hrolled => ?_
      have hfailures := length_failures_le pool
      exact q.settleWithin_eq limit (by omega)
    | false =>
      change q.settleWithin rounds limit pool = some <$> (q.settle limit pool : RollM σ Result)
      exact q.settleWithin_eq limit (by omega)

end DicePool
