import DicePool.Roll.Resolve
import Mathlib.Data.List.Basic

/-!
# Proofs/Roll/Playing — a roll against its source

A roll is played against a source of faces (`playOn`) and ends with an outcome and what is left of
the source. `drawPips_playOn` and its converse say what one draw does; `Hands s vs s'` says that a
source hands out the numbers `vs` one after the other, and is how the results of this library speak
of the first faces of a source.
-/

namespace DicePool

variable {σ α β : Type}

/-! ## Outcomes -/

/-- The outcome of a roll against a source, and the source afterwards. -/
def RollM.playOn (m : RollM σ α) (s : σ) : Except RollError α × σ := m.run.run s

namespace RollM

@[simp] theorem playOn_pure (x : α) (s : σ) : (pure x : RollM σ α).playOn s = (.ok x, s) := rfl

@[simp] theorem playOn_throw (e : RollError) (s : σ) :
    (throw e : RollM σ α).playOn s = (.error e, s) := rfl

/-- **What follows a failure is not played.** -/
theorem playOn_bind (m : RollM σ α) (f : α → RollM σ β) (s : σ) :
    (m >>= f).playOn s = match m.playOn s with
      | (.ok x, s') => (f x).playOn s'
      | (.error e, s') => (.error e, s') := by
  change ((m.run >>= ExceptT.bindCont f) : StateM σ _).run s = _
  rw [StateT.run_bind]
  rcases h : m.playOn s with ⟨_ | x, s'⟩ <;>
    · rw [show m.run.run s = _ from h]
      rfl

theorem throw_bind (e : RollError) (f : α → RollM σ β) :
    ((throw e : RollM σ α) >>= f) = throw e := rfl

/-- A sequence of two has a result just in case both have one. -/
theorem playOn_bind_eq_ok_iff {m : RollM σ α} {f : α → RollM σ β} {s s' : σ} {y : β} :
    (m >>= f).playOn s = (.ok y, s')
      ↔ ∃ x t, m.playOn s = (.ok x, t) ∧ (f x).playOn t = (.ok y, s') := by
  rw [playOn_bind]
  rcases m.playOn s with ⟨_ | x, t⟩ <;> simp

end RollM

/-! ## One draw -/

variable [Source σ]

theorem drawPips_playOn (s : σ) :
    (drawPips : RollM σ Pips).playOn s = (pipsOf (Source.draw s).1, (Source.draw s).2) := by
  change (liftExcept (pipsOf (Source.draw s).1) : RollM σ Pips).playOn (Source.draw s).2 = _
  cases pipsOf (Source.draw s).1 <;> rfl

/-- **A draw succeeds on the numbers of a die.** -/
theorem pipsOf_eq_ok_iff {f : Except Exhausted Face} {p : Pips} :
    pipsOf f = .ok p ↔ f = .ok (.pips p) ∧ 1 ≤ p.count ∧ p.count ≤ 10 := by
  rcases f with e | f
  · simp [pipsOf]
  · cases h : f.valid? with
    | none =>
      simp only [pipsOf, h, reduceCtorEq, Except.ok.injEq, false_iff]
      rintro ⟨rfl, hp⟩
      exact Option.some_ne_none p ((Face.valid?_eq_some_iff.2 ⟨rfl, hp⟩).symm.trans h)
    | some v =>
      obtain ⟨rfl, hv⟩ := Face.valid?_eq_some_iff.1 h
      simp only [pipsOf, h, Except.ok.injEq, Face.pips.injEq]
      exact ⟨fun hp => ⟨hp, hp ▸ hv⟩, fun hp => hp.1⟩

theorem drawPips_playOn_eq_ok_iff {s s' : σ} {p : Pips} :
    (drawPips : RollM σ Pips).playOn s = (.ok p, s')
      ↔ Source.draw s = (.ok (.pips p), s') ∧ 1 ≤ p.count ∧ p.count ≤ 10 := by
  rw [drawPips_playOn, Prod.mk.injEq, pipsOf_eq_ok_iff]
  rcases Source.draw s with ⟨f, t⟩
  simp only [Prod.mk.injEq]
  tauto

/-! ## Many draws -/

/-- The numbers `vs` are the next faces of the source `s`, and `s'` is left of it. -/
def Hands (s : σ) (vs : List Pips) (s' : σ) : Prop :=
  drawUpTo vs.length s = (vs.map .pips, none, s')

@[simp] theorem hands_nil_iff {s s' : σ} : Hands s [] s' ↔ s = s' := by
  simp [Hands, drawUpTo]

theorem hands_cons_iff {s s' : σ} {v : Pips} {vs : List Pips} :
    Hands s (v :: vs) s' ↔ ∃ t, Source.draw s = (.ok (.pips v), t) ∧ Hands t vs s' := by
  simp only [Hands, List.length_cons, drawUpTo, List.map_cons]
  rcases Source.draw s with ⟨e | f, t⟩
  · simp
  · simp only [Prod.mk.injEq, List.cons.injEq, Except.ok.injEq]
    constructor
    · rintro ⟨⟨rfl, hfs⟩, he, hu⟩
      exact ⟨t, ⟨rfl, rfl⟩, Prod.ext hfs (Prod.ext he hu)⟩
    · rintro ⟨_, ⟨rfl, rfl⟩, h⟩
      rw [h]
      exact ⟨⟨rfl, rfl⟩, rfl, rfl⟩

/-- **One number more is one draw more.** -/
theorem hands_append_iff {s s' : σ} {vs ws : List Pips} :
    Hands s (vs ++ ws) s' ↔ ∃ t, Hands s vs t ∧ Hands t ws s' := by
  induction vs generalizing s with
  | nil => simp
  | cons v vs ih =>
    simp only [List.cons_append, hands_cons_iff, ih]
    grind

end DicePool
