import DicePool.Proofs.Roll.Limit

/-!
# Proofs/Roll/Need — a roll reads just the faces that it needs

How many faces a roll takes is not known while it goes on, since each of them may call for another.
The faces themselves say when it is over, all the same. Main statement `resolve_reads_needed`: whatever
hands out the faces of a roll makes the same roll and keeps all that follows, and whatever stops short
of them leaves it without a face. So no roll with a result is the beginning of another one
(`Completes`).

The second half is the account of the roll once more, cut off where the faces are
(`Draws.runs_dry`): up to there each die is called for by the same numbers.
-/

namespace DicePool

/-- **What is drawn of a script is its beginning**, and the rest is left. -/
theorem eq_append_of_drawUpTo {k n : Nat} {script faces : List Face} {t : Script}
    (h : drawUpTo k (⟨n, script⟩ : Script) = (faces, none, t)) : script = faces ++ t.rest := by
  induction k generalizing n script faces with
  | zero =>
    cases h
    rfl
  | succ k ih =>
    cases script with
    | nil => cases h
    | cons f script =>
      have hcons : (f :: (drawUpTo k (⟨n + 1, script⟩ : Script)).1,
          (drawUpTo k (⟨n + 1, script⟩ : Script)).2) = (faces, none, t) := h
      obtain ⟨rfl, hrest⟩ := Prod.mk.inj hcons
      rw [List.cons_append, ← ih (Prod.ext rfl hrest)]

namespace Request

variable {σ : Type} [Source σ] {q : Request} {limit : Int} {dice : List Die} {s s' : σ}
  {faces : List Face} {outcome : Except RollError Result}

/-- **A script that stops short of the faces of a roll leaves it without a face**, however that roll
ended. -/
theorem Draws.runs_dry (h : q.Draws limit dice s faces outcome s') {front : List Face}
    (hfront : front <+: faces) (hne : front ≠ faces) (n : Nat) :
    q.Draws limit dice (⟨n, front⟩ : Script) front (.error (.exhausted (.script (n + front.length))))
      ⟨n + front.length, []⟩ := by
  induction h generalizing front n with
  | finish _ => exact absurd (List.prefix_nil.1 hfront) hne
  | runaway _ => exact absurd (List.prefix_nil.1 hfront) hne
  | exhausted _ _ => exact absurd (List.prefix_nil.1 hfront) hne
  | invalid hturn _ _ =>
    cases front with
    | nil => exact .exhausted hturn rfl
    | cons f front =>
      obtain ⟨rfl, hnil⟩ := List.cons_prefix_cons.1 hfront
      rw [List.prefix_nil.1 hnil] at hne
      exact absurd rfl hne
  | die hturn _ hf _ ih =>
    cases front with
    | nil => exact .exhausted hturn rfl
    | cons f front =>
      obtain ⟨rfl, hrest⟩ := List.cons_prefix_cons.1 hfront
      have hlen : n + (f :: front).length = n + 1 + front.length := by
        rw [List.length_cons]
        omega
      rw [hlen]
      exact .die hturn rfl hf (ih hrest (fun heq => hne (congrArg (f :: ·) heq)) (n + 1))

/-- **The faces of a roll with a result are the numbers of its dice.** -/
theorem drawn_of_playOn {r : Result} (h : (resolve q limit).playOn s = (.ok r, s')) :
    q.drawn limit s = r.values.map .pips ∧ Hands s r.values s' := by
  obtain ⟨dice, hruns, hvalid, hhands, rfl⟩ := resolve_playOn_eq_ok_iff_runs.1 h
  rw [(hruns.draws hvalid hhands).drawn_eq, result_values, List.map_map]
  exact ⟨rfl, hhands⟩

/-- **Whatever hands out the same faces first makes the same roll**, and keeps all that follows. -/
theorem playOn_of_drawUpTo {τ : Type} [Source τ] {r : Result} {t t' : τ}
    (h : (resolve q limit).playOn s = (.ok r, s'))
    (ht : drawUpTo (q.drawn limit s).length t = (q.drawn limit s, none, t')) :
    (resolve q limit).playOn t = (.ok r, t') := by
  rw [(drawn_of_playOn h).1, List.length_map] at ht
  obtain ⟨dice, hruns, hvalid, -, rfl⟩ := resolve_playOn_eq_ok_iff_runs.1 h
  rw [result_values] at ht
  exact resolve_playOn_eq_ok_iff_runs.2 ⟨dice, hruns, hvalid, ht, rfl⟩

theorem playOn_append {r : Result} (h : (resolve q limit).playOn s = (.ok r, s'))
    (rest : List Face) : (resolve q limit).playOn (Script.ofList (q.drawn limit s ++ rest))
      = (.ok r, ⟨(q.drawn limit s).length, rest⟩) := by
  obtain ⟨faces, outcome, t, hdraws⟩ := q.exists_draws limit [] s
  obtain ⟨rfl, rfl⟩ : outcome = .ok r ∧ t = s' := by
    rw [hdraws.resolve_playOn] at h
    exact Prod.mk.inj h
  have hdry : RollError.ranDry (.ok r) → rest = [] := fun hran => Bool.noConfusion hran
  have hplay := (hdraws.ofScript hdry 0).resolve_playOn
  rw [hdraws.drawn_eq]
  rwa [Nat.zero_add] at hplay

/-- **Whatever stops short of them leaves the roll without a face.** -/
theorem playOn_of_prefix_drawn {front : List Face} (hfront : front <+: q.drawn limit s)
    (hne : front ≠ q.drawn limit s) : (resolve q limit).playOn (Script.ofList front)
      = (.error (.exhausted (.script front.length)), ⟨front.length, []⟩) := by
  obtain ⟨faces, outcome, s', h⟩ := q.exists_draws limit [] s
  rw [h.drawn_eq] at hfront hne
  have hplay := (h.runs_dry hfront hne 0).resolve_playOn
  rwa [Nat.zero_add] at hplay

/-- Faces are all that a roll takes, and enough for a result. -/
def Completes (q : Request) (limit : Int) (faces : List Face) : Prop :=
  ∃ r, (resolve q limit).playOn (Script.ofList faces) = (.ok r, ⟨faces.length, []⟩)

theorem Completes.drawn_eq (h : q.Completes limit faces) :
    q.drawn limit (Script.ofList faces) = faces := by
  obtain ⟨r, hr⟩ := h
  obtain ⟨hdrawn, hhands⟩ := drawn_of_playOn hr
  rw [hdrawn]
  simpa using (eq_append_of_drawUpTo hhands).symm

/-- **Of two lists of faces that are enough, neither is the beginning of the other.** -/
theorem Completes.eq_of_prefix {faces' : List Face} (h : q.Completes limit faces)
    (h' : q.Completes limit faces') (hbegins : faces <+: faces') : faces = faces' := by
  by_contra hne
  obtain ⟨r, hr⟩ := h
  rw [playOn_of_prefix_drawn (by rwa [h'.drawn_eq]) (by rwa [h'.drawn_eq])] at hr
  cases hr

end Request

open Request

/-- **A roll reads just the faces that it needs** — a roll with a result has drawn its faces one after
the other and left the rest of the source alone. From any source that hands out the same faces first,
it has the same result and leaves what they leave; from a script of fewer of them it fails for want of
a face, and none is left. So of two lists of faces that are enough, neither begins with the other. -/
theorem resolve_reads_needed (q : Request) (limit : Int) :
    (∀ {σ : Type} [Source σ] {s s' : σ} {r : Result},
      (resolve q limit).playOn s = (.ok r, s') →
        let faces := q.drawn limit s
        drawUpTo faces.length s = (faces, none, s') ∧
        (∀ {τ : Type} [Source τ] {t t' : τ}, drawUpTo faces.length t = (faces, none, t') →
          (resolve q limit).playOn t = (.ok r, t')) ∧
        (∀ rest, (resolve q limit).playOn (Script.ofList (faces ++ rest))
          = (.ok r, ⟨faces.length, rest⟩)) ∧
        ∀ front, front <+: faces → front ≠ faces →
          (resolve q limit).playOn (Script.ofList front)
            = (.error (.exhausted (.script front.length)), ⟨front.length, []⟩)) ∧
    ∀ faces faces', q.Completes limit faces → q.Completes limit faces' → faces <+: faces' →
      faces = faces' := by
  refine ⟨fun {σ} _ {s s' r} h => ?_, fun faces faces' => Completes.eq_of_prefix⟩
  refine ⟨?_, playOn_of_drawUpTo h, playOn_append h, fun front => playOn_of_prefix_drawn⟩
  obtain ⟨hdrawn, hhands⟩ := drawn_of_playOn h
  rw [hdrawn, List.length_map]
  exact hhands

/-- Two dice under the rote quality, one of them rolled again, and two explosions: the five faces are
read and the seven behind them is left, whatever comes after it; four of them are not enough. -/
theorem resolve_reads_needed_rote_explosions :
    let q : Request := { poolSize := 2, rote := true }
    let faces : List Face := [10, 4, 10, 9, 3].map fun n => .pips (.number n)
    let seven : Face := .pips (.number 7)
    let r : Result := {
      dice := [⟨.number 10, .initial, none⟩, ⟨.number 4, .initial, none⟩,
        ⟨.number 10, .roteReroll, some 1⟩, ⟨.number 9, .explosion, some 0⟩,
        ⟨.number 3, .explosion, some 2⟩]
      successes := 3
      explodedCount := 2 }
    (resolve q 2).playOn (Script.ofList (faces ++ [seven])) = (.ok r, ⟨5, [seven]⟩) ∧
      q.drawn 2 (Script.ofList (faces ++ [seven])) = faces ∧
      (∀ rest, (resolve q 2).playOn (Script.ofList (faces ++ rest)) = (.ok r, ⟨5, rest⟩)) ∧
      (resolve q 2).playOn (Script.ofList (faces.take 4)) = (.error (.exhausted (.script 4)), ⟨4, []⟩) := by
  intro q faces seven r
  have hr : (resolve q 2).playOn (Script.ofList (faces ++ [seven])) = (.ok r, ⟨5, [seven]⟩) :=
    resolve_playOn_eq_ok_iff_runs.2
      ⟨r.dice, runs_iff_causes.2 ⟨by decide, by decide, by decide⟩, by decide, rfl, by decide⟩
  have hdrawn : q.drawn 2 (Script.ofList (faces ++ [seven])) = faces := (drawn_of_playOn hr).1
  obtain ⟨-, -, hrest, hfront⟩ := (resolve_reads_needed q 2).1 hr
  rw [hdrawn] at hrest hfront
  exact ⟨hr, hdrawn, hrest, hfront (faces.take 4) (List.take_prefix _ _)
    (ne_of_apply_ne List.length (by decide))⟩

end DicePool
