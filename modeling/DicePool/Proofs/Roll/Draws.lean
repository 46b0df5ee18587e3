import DicePool.Proofs.Roll.Course

/-!
# Proofs/Roll/Draws — a roll and the faces that it draws

`Request.Draws` is a roll with all that it takes from its source: the faces that were drawn, with the
one that no die shows if that ended it, then the outcome, and what is left of the source. Every roll
has one such account (`exists_draws`), it is what is played (`Draws.playOn`), and it is what a
recorder keeps (`Draws.record`).

Main statement `Draws.ofScript`: the faces are all that a roll knows of its source, so that a script
which begins with them makes the same roll.
-/

namespace DicePool

variable {σ : Type} [Source σ]

/-- The faces that are handed out in `n` draws, some of which may fail, and what is left. -/
def takeFaces : Nat → σ → List Face × σ
  | 0, s => ([], s)
  | n + 1, s =>
    match Source.draw s with
    | (.error _, s) => takeFaces n s
    | (.ok f, s) =>
      let (fs, s) := takeFaces n s
      (f :: fs, s)

/-- **Draws one after the other take faces one after the other.** -/
theorem takeFaces_add (m n : Nat) (s : σ) :
    takeFaces (m + n) s
      = ((takeFaces m s).1 ++ (takeFaces n (takeFaces m s).2).1, (takeFaces n (takeFaces m s).2).2) := by
  induction m generalizing s with
  | zero => rw [Nat.zero_add, takeFaces, List.nil_append]
  | succ m ih =>
    rw [Nat.succ_add, takeFaces, takeFaces]
    rcases Source.draw s with ⟨e | f, t⟩
    · exact ih t
    · simp only [ih t, List.cons_append]

/-- A failure that comes last hides no face behind it. -/
theorem takeFaces_of_drawUpTo {n : Nat} {s s' : σ} {faces : List Face} {failure : Option Exhausted}
    (h : drawUpTo n s = (faces, failure, s')) (hn : n = faces.length + failure.isSome.toNat) :
    takeFaces n s = (faces, s') := by
  induction n generalizing s faces with
  | zero =>
    obtain ⟨rfl, -, rfl⟩ : [] = faces ∧ none = failure ∧ s = s' := by simpa [drawUpTo] using h
    rfl
  | succ n ih =>
    rw [drawUpTo] at h
    rw [takeFaces]
    rcases hdraw : Source.draw s with ⟨e | f, t⟩
    · rw [hdraw] at h
      cases h
      obtain rfl : n = 0 := Nat.succ.inj hn
      rfl
    · rw [hdraw] at h
      cases h
      dsimp only
      rw [ih rfl (by simpa [Nat.succ_add] using hn)]

namespace RollError

/-- The failure of the same roll from a script of so many faces: where the source handed out no more,
for whatever reason, the script is at its end. -/
def onReplay (length : Nat) : RollError → RollError
  | .exhausted _ => .exhausted (.script length)
  | e => e

/-- The failure of the source, if that ended a roll. -/
def sourceFailure? {α : Type} : Except RollError α → Option Exhausted
  | .error (.exhausted e) => some e
  | _ => none

/-- Whether a roll ended because its source handed out no face. -/
def ranDry {α : Type} : Except RollError α → Bool
  | .error (.exhausted _) => true
  | _ => false

/-- A face is refused by its text, or because it is too long to be shown. -/
theorem ofFace_eq (f : Face) :
    (∃ shown, ofFace f = .invalidFace shown) ∨ ∃ e, ofFace f = .unwritable (.face e) := by
  cases f with
  | pips p =>
    rw [ofFace]
    cases p.text <;> simp
  | foreign v =>
    rw [ofFace]
    cases v.display? <;> simp

/-- A limit that was passed is told. -/
theorem ofLimit_of_nonneg {limit : Int} (h : 0 ≤ limit) : ofLimit limit = .runaway limit :=
  if_pos h

/-- It is told as well below zero, unless it is too long. -/
theorem ofLimit_of_lt {limit : Int} (h : limit.natAbs < Nat.pow 10 Numeral.maxDigits) :
    ofLimit limit = .runaway limit := by
  rw [ofLimit, Numeral.write_of_lt h]
  exact ite_self _

theorem ofLimit_of_le {limit : Int} (hneg : limit < 0)
    (h : Nat.pow 10 Numeral.maxDigits ≤ limit.natAbs) :
    ofLimit limit = .unwritable (.limit limit .tooLargeToWrite) := by
  rw [ofLimit, if_neg (Int.not_le.2 hneg), Numeral.write_eq_error_iff.2 ⟨h, rfl⟩]

theorem ofLimit_eq (limit : Int) :
    ofLimit limit = .runaway limit ∨ ∃ e, ofLimit limit = .unwritable (.limit limit e) := by
  unfold ofLimit
  split
  next => exact .inl rfl
  next => cases Numeral.write limit <;> simp

/-! Neither of these failures is one of the source. -/

theorem onReplay_ofFace (length : Nat) (f : Face) : (ofFace f).onReplay length = ofFace f := by
  rcases ofFace_eq f with ⟨_, h⟩ | ⟨_, h⟩ <;> rw [h] <;> rfl

theorem onReplay_ofLimit (length : Nat) (limit : Int) :
    (ofLimit limit).onReplay length = ofLimit limit := by
  rcases ofLimit_eq limit with h | ⟨_, h⟩ <;> rw [h] <;> rfl

theorem sourceFailure?_ofFace {α : Type} (f : Face) :
    sourceFailure? (.error (ofFace f) : Except RollError α) = none := by
  rcases ofFace_eq f with ⟨_, h⟩ | ⟨_, h⟩ <;> rw [h] <;> rfl

theorem sourceFailure?_ofLimit {α : Type} (limit : Int) :
    sourceFailure? (.error (ofLimit limit) : Except RollError α) = none := by
  rcases ofLimit_eq limit with h | ⟨_, h⟩ <;> rw [h] <;> rfl

theorem ranDry_eq_isSome {α : Type} (outcome : Except RollError α) :
    ranDry outcome = (sourceFailure? outcome).isSome := by
  rcases outcome with (_ | _ | _ | _) | _ <;> rfl

theorem ranDry_ofFace {α : Type} (f : Face) :
    ranDry (.error (ofFace f) : Except RollError α) = false := by
  rw [ranDry_eq_isSome, sourceFailure?_ofFace]
  rfl

theorem ranDry_ofLimit {α : Type} (limit : Int) :
    ranDry (.error (ofLimit limit) : Except RollError α) = false := by
  rw [ranDry_eq_isSome, sourceFailure?_ofLimit]
  rfl

end RollError

namespace Request

/-! ## Accounts of a roll -/

/-- From the dice on the table on, a roll draws these faces from the source, ends with this outcome,
and leaves that of the source. -/
inductive Draws (q : Request) (limit : Int) :
    List Die → σ → List Face → Except RollError Result → σ → Prop
  | finish {dice : List Die} {s : σ} :
    q.turn limit (dice.map (·.value)) = .finish → q.Draws limit dice s [] (.ok (q.result dice)) s
  | runaway {dice : List Die} {s : σ} :
    q.turn limit (dice.map (·.value)) = .runaway →
      q.Draws limit dice s [] (.error (.ofLimit limit)) s
  | exhausted {dice : List Die} {s t : σ} {o : Origin} {i : Option Int} {e : Exhausted} :
    q.turn limit (dice.map (·.value)) = .roll o i → Source.draw s = (.error e, t) →
      q.Draws limit dice s [] (.error (.exhausted e)) t
  | invalid {dice : List Die} {s t : σ} {o : Origin} {i : Option Int} {f : Face} :
    q.turn limit (dice.map (·.value)) = .roll o i → Source.draw s = (.ok f, t) →
      f.valid? = none → q.Draws limit dice s [f] (.error (.ofFace f)) t
  | die {dice : List Die} {s t s' : σ} {o : Origin} {i : Option Int} {f : Face} {p : Pips}
    {faces : List Face} {outcome : Except RollError Result} :
    q.turn limit (dice.map (·.value)) = .roll o i → Source.draw s = (.ok f, t) →
      f.valid? = some p → q.Draws limit (dice ++ [⟨p, o, i⟩]) t faces outcome s' →
        q.Draws limit dice s (f :: faces) outcome s'

variable {q : Request} {limit : Int} {dice : List Die} {s s' : σ} {faces : List Face}
  {outcome : Except RollError Result}

/-- **Every roll has an account.** -/
theorem exists_draws (q : Request) (limit : Int) (dice : List Die) (s : σ) :
    ∃ faces outcome s', q.Draws limit dice s faces outcome s' := by
  induction dice using course.induct q limit generalizing s with
  | case1 dice hturn => exact ⟨_, _, _, .finish hturn⟩
  | case2 dice hturn => exact ⟨_, _, _, .runaway hturn⟩
  | case3 dice o i hturn ih =>
    rcases hdraw : Source.draw s with ⟨e | f, t⟩
    · exact ⟨_, _, _, .exhausted hturn hdraw⟩
    · cases hf : f.valid? with
      | none => exact ⟨_, _, _, .invalid hturn hdraw hf⟩
      | some p =>
        obtain ⟨faces, outcome, s', hrest⟩ := ih p t
        exact ⟨_, _, _, .die hturn hdraw hf hrest⟩

/-- **The account of a roll is what is played.** -/
theorem Draws.playOn (h : q.Draws limit dice s faces outcome s') :
    (q.course limit dice).playOn s = (outcome, s') := by
  induction h with
  | finish hturn => rw [course_of_finish hturn, RollM.playOn_pure]
  | runaway hturn => rw [course_of_runaway hturn, RollM.playOn_throw]
  | exhausted hturn hdraw =>
    rw [course_of_roll hturn, RollM.playOn_bind, drawPips_playOn, hdraw]
    rfl
  | invalid hturn hdraw hf =>
    rw [course_of_roll hturn, RollM.playOn_bind, drawPips_playOn, hdraw]
    simp only [pipsOf, hf]
  | die hturn hdraw hf _ ih =>
    rw [course_of_roll hturn, RollM.playOn_bind, drawPips_playOn, hdraw]
    simpa only [pipsOf, hf] using ih

theorem Draws.resolve_playOn (h : q.Draws limit [] s faces outcome s') :
    (resolve q limit).playOn s = (outcome, s') := by
  rw [resolve_eq_course, h.playOn]

/-! ## Recorders -/

theorem draw_recorder_of_ok {t : σ} {f : Face} (kept : Array Face)
    (hdraw : Source.draw s = (.ok f, t)) :
    Source.draw (⟨s, kept⟩ : Recorder σ) = (.ok f, ⟨t, kept.push f⟩) := by
  change Recorder.draw _ = _
  rw [Recorder.draw, hdraw]

theorem draw_recorder_of_error {t : σ} {e : Exhausted} (kept : Array Face)
    (hdraw : Source.draw s = (.error e, t)) :
    Source.draw (⟨s, kept⟩ : Recorder σ) = (.error e, ⟨t, kept⟩) := by
  change Recorder.draw _ = _
  rw [Recorder.draw, hdraw]

/-- **A recorder changes nothing and keeps the faces of the account.** -/
theorem Draws.record (h : q.Draws limit dice s faces outcome s') (kept : Array Face) :
    q.Draws limit dice (⟨s, kept⟩ : Recorder σ) faces outcome ⟨s', kept ++ faces.toArray⟩ := by
  induction h generalizing kept with
  | finish hturn => simpa using Draws.finish hturn
  | runaway hturn => simpa using Draws.runaway hturn
  | exhausted hturn hdraw =>
    simpa using Draws.exhausted hturn (draw_recorder_of_error kept hdraw)
  | @invalid _ _ _ _ _ f hturn hdraw hf =>
    have hpush : kept.push f = kept ++ [f].toArray := by simp
    exact hpush ▸ .invalid hturn (draw_recorder_of_ok kept hdraw) hf
  | @die _ _ _ _ _ _ f _ faces _ hturn hdraw hf _ ih =>
    have hpush : kept.push f ++ faces.toArray = kept ++ (f :: faces).toArray := by simp
    exact hpush ▸ .die hturn (draw_recorder_of_ok kept hdraw) hf (ih (kept.push f))

/-- The faces that a roll draws from a source. -/
def drawn (q : Request) (limit : Int) (s : σ) : List Face :=
  ((resolve q limit).playOn (Recorder.ofSource s)).2.draws.toList

theorem Draws.drawn_eq (h : q.Draws limit [] s faces outcome s') : q.drawn limit s = faces := by
  rw [drawn, Recorder.ofSource, (h.record #[]).resolve_playOn]
  simp

/-! ## Faces are taken in order -/

/-- **A roll draws its faces from the source, and nothing else** — with one draw more if the source
handed out no face, and then the failure of that draw is the one of the roll. -/
theorem Draws.drawUpTo_eq (h : q.Draws limit dice s faces outcome s') :
    drawUpTo (faces.length + (RollError.ranDry outcome).toNat) s
      = (faces, RollError.sourceFailure? outcome, s') := by
  induction h with
  | finish _ => rfl
  | runaway _ => rw [RollError.ranDry_ofLimit, RollError.sourceFailure?_ofLimit]; rfl
  | exhausted _ hdraw =>
    simp only [List.length_nil, RollError.ranDry, Bool.toNat_true, drawUpTo, hdraw,
      RollError.sourceFailure?]
  | invalid _ hdraw _ =>
    simp only [RollError.ranDry_ofFace, RollError.sourceFailure?_ofFace, List.length_singleton,
      Bool.toNat_false, drawUpTo, hdraw]
  | die _ hdraw _ _ ih =>
    rw [List.length_cons, Nat.succ_add, drawUpTo, hdraw]
    simp only [ih]

/-- **A roll takes its faces from the source.** -/
theorem Draws.takeFaces_eq (h : q.Draws limit dice s faces outcome s') :
    takeFaces (faces.length + (RollError.ranDry outcome).toNat) s = (faces, s') :=
  takeFaces_of_drawUpTo h.drawUpTo_eq (by rw [RollError.ranDry_eq_isSome])

/-! ## Scripts -/

/-- **The faces of a roll make the same roll** — from a script that begins with them, and ends with
them if the roll ran out of faces. -/
theorem Draws.ofScript (h : q.Draws limit dice s faces outcome s') {rest : List Face}
    (hrest : RollError.ranDry outcome → rest = []) (n : Nat) :
    q.Draws limit dice (⟨n, faces ++ rest⟩ : Script) faces
      (outcome.mapError (RollError.onReplay (n + faces.length))) ⟨n + faces.length, rest⟩ := by
  induction h generalizing n with
  | finish hturn => exact .finish hturn
  | runaway hturn =>
    rw [mapError_error, RollError.onReplay_ofLimit]
    exact .runaway hturn
  | exhausted hturn _ =>
    obtain rfl := hrest rfl
    exact .exhausted hturn rfl
  | invalid hturn _ hf =>
    rw [mapError_error, RollError.onReplay_ofFace]
    exact .invalid hturn rfl hf
  | @die _ _ _ _ _ _ f _ faces _ hturn _ hf _ ih =>
    have hlen : n + (f :: faces).length = n + 1 + faces.length := by
      rw [List.length_cons]
      omega
    rw [hlen]
    exact .die hturn rfl hf (ih hrest (n + 1))

/-! ## Dice that are called for -/

/-- **Dice that are called for one after the other are drawn one after the other.** -/
theorem draws_of_called {t : σ} (more : List Die)
    (hcalled : ∀ k d, more[k]? = some d →
      q.turn limit ((dice ++ more.take k).map (·.value)) = .roll d.origin d.trigger)
    (hvalid : ∀ d ∈ more, 1 ≤ d.value.count ∧ d.value.count ≤ 10)
    (hhands : Hands s (more.map (·.value)) t) (h : q.Draws limit (dice ++ more) t faces outcome s') :
    q.Draws limit dice s (more.map (fun d => .pips d.value) ++ faces) outcome s' := by
  induction more generalizing dice s with
  | nil =>
    obtain rfl := hands_nil_iff.1 hhands
    simpa using h
  | cons d more ih =>
    obtain ⟨u, hdraw, hrest⟩ := hands_cons_iff.1 hhands
    obtain ⟨hd, hmore⟩ := List.forall_mem_cons.1 hvalid
    have hturn : q.turn limit (dice.map (·.value)) = .roll d.origin d.trigger := by
      simpa using hcalled 0 d rfl
    refine .die hturn hdraw (Face.valid?_eq_some_iff.2 ⟨rfl, hd⟩) (ih (fun k d' hk => ?_) hmore hrest ?_)
    · simpa using hcalled (k + 1) d' hk
    · simpa using h

end Request

end DicePool
