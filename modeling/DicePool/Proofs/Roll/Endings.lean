import DicePool.Proofs.Roll.Limit

/-!
# Proofs/Roll/Endings — the ways in which a roll from a script ends

A roll may fail at each of its draws, for want of a face or because of the one that came, and between
two of them because too many dice explode. Whatever the dice, it draws good ones first
(`Draws.exists_called`), and what it met behind them is how it ended: main statement
`resolve_ends_one_way`, for scripts of numbers that can be shown. That too many dice explode is told
with the limit, which only fails for one that is far below zero (`not_tells_of_long_limit`).

A roll that has run away leaves no dice behind to be counted. How many of its faces were explosions is
told by the same request with explosions forbidden, which has a result on the first of those faces
(`Calls.runs_withoutExplosions`).
-/

namespace DicePool

namespace Request

variable {σ : Type} [Source σ] {q : Request} {limit : Int} {dice : List Die} {s s' : σ}
  {faces : List Face} {outcome : Except RollError Result}

/-! ## Good dice first -/

/-- From the dice on the table on, the turns call for these dice one after the other. -/
def Calls (q : Request) (limit : Int) (dice more : List Die) : Prop :=
  ∀ k d, more[k]? = some d →
    q.turn limit ((dice ++ more.take k).map (·.value)) = .roll d.origin d.trigger

theorem calls_nil : q.Calls limit dice [] := by
  rintro k d ⟨⟩

theorem Calls.cons {d : Die} {more : List Die}
    (hd : q.turn limit (dice.map (·.value)) = .roll d.origin d.trigger)
    (h : q.Calls limit (dice ++ [d]) more) : q.Calls limit dice (d :: more) := by
  rintro (_ | k) d' hk
  · obtain rfl := Option.some.inj hk
    simpa using hd
  · simpa using h k d' hk

/-- **A roll draws good dice first, and then at most a face that no die shows** — the account from
there on says how it ended. -/
theorem Draws.exists_called (h : q.Draws limit dice s faces outcome s') :
    ∃ more last t, q.Calls limit dice more ∧ (∀ d ∈ more, 1 ≤ d.value.count ∧ d.value.count ≤ 10)
      ∧ Hands s (more.map (·.value)) t ∧ faces = more.map (fun d => .pips d.value) ++ last
      ∧ q.Draws limit (dice ++ more) t last outcome s' ∧ ∀ f ∈ last, f.valid? = none := by
  induction h with
  | @finish _ s hturn =>
    exact ⟨[], [], s, calls_nil, by simp, hands_nil_iff.2 rfl, rfl, by simpa using .finish hturn,
      by simp⟩
  | @runaway _ s hturn =>
    exact ⟨[], [], s, calls_nil, by simp, hands_nil_iff.2 rfl, rfl, .runaway (by simpa), by simp⟩
  | @exhausted _ s _ _ _ _ hturn hdraw =>
    exact ⟨[], [], s, calls_nil, by simp, hands_nil_iff.2 rfl, rfl,
      .exhausted (by simpa) hdraw, by simp⟩
  | @invalid _ s _ _ _ f hturn hdraw hf =>
    exact ⟨[], [f], s, calls_nil, by simp, hands_nil_iff.2 rfl, rfl,
      .invalid (by simpa) hdraw hf, by simpa⟩
  | @die _ _ _ _ o i _ p _ _ hturn hdraw hf _ ih =>
    obtain ⟨more, last, t, hcalls, hvalid, hhands, rfl, hend, hlast⟩ := ih
    obtain ⟨rfl, hp⟩ := Face.valid?_eq_some_iff.1 hf
    refine ⟨⟨p, o, i⟩ :: more, last, t, hcalls.cons hturn, List.forall_mem_cons.2 ⟨hp, hvalid⟩,
      hands_cons_iff.2 ⟨_, hdraw, hhands⟩, rfl, ?_, hlast⟩
    rwa [List.append_assoc, List.singleton_append] at hend

/-- Dice that are called for have the first causes of their numbers. -/
theorem Calls.getElem?_causes (h : q.Calls limit [] dice) {k : Nat} {d : Die}
    (hd : dice[k]? = some d) : (q.causes (dice.map (·.value)))[k]? = some d.cause := by
  have hk : k ≤ (dice.map (·.value)).length := by
    rw [List.length_map]
    exact Nat.le_of_lt (List.getElem?_eq_some_iff.1 hd).1
  have hturn := h k d hd
  rw [List.nil_append, List.map_take] at hturn
  exact ((turn_take_eq_roll_iff hk).1 hturn).1

/-! ## Rolls that run away -/

theorem turn_eq_runaway_iff {vs : List Pips} :
    q.turn limit vs = .runaway ↔ vs.length < (q.causes vs).length
      ∧ q.base vs ≤ vs.length ∧ limit.toNat ≤ vs.length - q.base vs := by
  rw [turn_eq_of_causes]
  cases hk : (q.causes vs)[vs.length]? with
  | none =>
    have := List.getElem?_eq_none_iff.1 hk
    simp only [reduceCtorEq, false_iff]
    omega
  | some c =>
    have hlt := (List.getElem?_eq_some_iff.1 hk).1
    dsimp only
    split
    next hcap => exact iff_of_true rfl ⟨hlt, hcap⟩
    next hcap => exact iff_of_false Turn.noConfusion fun h => hcap h.2

/-- **A roll has run away when as many dice have exploded as are allowed**, and one more would. -/
theorem Calls.length_eq_of_runaway (h : q.Calls limit [] dice)
    (hturn : q.turn limit (dice.map (·.value)) = .runaway) :
    dice.length = q.base (dice.map (·.value)) + limit.toNat := by
  obtain ⟨-, hbase, hcap⟩ := turn_eq_runaway_iff.1 hturn
  have hlen : (dice.map (·.value)).length = dice.length := List.length_map _
  by_contra hne
  have hk : q.base (dice.map (·.value)) + limit.toNat < dice.length := by omega
  -- The die behind the last explosion that is allowed was called for all the same.
  have hcalled := h _ _ (List.getElem?_eq_getElem hk)
  rw [List.nil_append, List.map_take, turn_take_eq_roll_iff (by omega)] at hcalled
  exact hcalled.2.2 ⟨by omega, by omega⟩

/-- The request with explosions forbidden. -/
def withoutExplosions (q : Request) : Request :=
  { q with noExplode := true }

@[simp] theorem bursts_withoutExplosions (vs : List Pips) : q.withoutExplosions.bursts vs = [] := by
  simp [bursts, explodes, withoutExplosions, Modifiers.threshold, List.findIdxs_eq_nil_iff.2]

/-- **What falls before the explosions is a run of the same request with explosions forbidden.** -/
theorem Calls.runs_withoutExplosions (h : q.Calls limit [] dice)
    (hbase : q.base (dice.map (·.value)) ≤ dice.length) :
    q.withoutExplosions.Runs limit [] (dice.take (q.base (dice.map (·.value)))) := by
  generalize hvs : dice.map (·.value) = vs at hbase ⊢
  have hlen : vs.length = dice.length := by rw [← hvs, List.length_map]
  -- Without explosions, the causes are the first of those with them.
  have hcauses : q.withoutExplosions.causes (vs.take (q.base vs))
      = (q.causes vs).take (q.base vs) := by
    have hrerolls : q.withoutExplosions.rerolls (vs.take (q.base vs)) = q.rerolls vs :=
      rerolls_take (q := q) (Nat.le_add_right _ _) (hlen ▸ hbase)
    rw [causes, hrerolls, bursts_withoutExplosions, List.map_nil, List.append_nil, causes]
    exact (List.take_left' (by simp [base]; rfl)).symm
  have htable : (dice.take (q.base vs)).map Die.cause
      = q.withoutExplosions.causes ((dice.take (q.base vs)).map (·.value)) := by
    rw [List.map_take, List.map_take, hvs, hcauses]
    refine List.ext_getElem? fun k => ?_
    rw [List.getElem?_take, List.getElem?_take]
    split
    next hk =>
      obtain ⟨d, hd⟩ : ∃ d, dice[k]? = some d := ⟨_, List.getElem?_eq_getElem (by omega)⟩
      rw [List.getElem?_map, hd, ← hvs, h.getElem?_causes hd, Option.map_some]
    next => rfl
  refine runs_iff_causes.2 ⟨htable, fun k hk horigin => ?_, by simp⟩
  have hnone := countP_explosion htable
  rw [bursts_withoutExplosions, List.length_nil, List.countP_eq_zero] at hnone
  exact absurd (decide_eq_true horigin) (hnone _ (List.getElem_mem hk))

end Request

/-! ## Scripts -/

/-- **A script hands out what it begins with.** -/
theorem hands_script_iff {vs ws : List Pips} {n : Nat} {t : Script} :
    Hands (⟨n, ws.map .pips⟩ : Script) vs t
      ↔ ∃ rest, ws = vs ++ rest ∧ t = ⟨n + vs.length, rest.map .pips⟩ := by
  induction vs generalizing n ws with
  | nil => simp [eq_comm]
  | cons v vs ih =>
    rw [hands_cons_iff]
    cases ws with
    | nil => simp [Source.draw, Script.draw]
    | cons w ws =>
      have hdraw : Source.draw (⟨n, (w :: ws).map .pips⟩ : Script)
          = (.ok (.pips w), ⟨n + 1, ws.map .pips⟩) := rfl
      have hlen : n + 1 + vs.length = n + (v :: vs).length := by
        rw [List.length_cons]
        omega
      rw [hdraw]
      simp only [Prod.mk.injEq, Except.ok.injEq, Face.pips.injEq, List.cons_append, List.cons.injEq]
      constructor
      · rintro ⟨_, ⟨rfl, rfl⟩, h⟩
        obtain ⟨rest, rfl, rfl⟩ := ih.1 h
        exact ⟨rest, ⟨rfl, rfl⟩, by rw [hlen]⟩
      · rintro ⟨rest, ⟨rfl, rfl⟩, rfl⟩
        exact ⟨_, ⟨rfl, rfl⟩, ih.2 ⟨rest, rfl, by rw [hlen]⟩⟩

/-! ## Endings -/

/-- The ways in which a roll ends. -/
inductive Ending where
  /-- It has a result. -/
  | result
  /-- A face came that no die shows. -/
  | badFace
  /-- No face was left. -/
  | exhausted
  /-- More dice would have exploded than are allowed. -/
  | runaway
  /-- The same, but that cannot be told, since the limit is too long to be written. -/
  | untold
deriving DecidableEq, Repr

/-- A limit below zero that is too long to be written. -/
def IsLong (limit : Int) : Prop := limit < 0 ∧ Nat.pow 10 Numeral.maxDigits ≤ limit.natAbs

theorem ofLimit_of_isLong {limit : Int} (h : IsLong limit) :
    RollError.ofLimit limit = .unwritable (.limit limit .tooLargeToWrite) :=
  RollError.ofLimit_of_le h.1 h.2

theorem ofLimit_of_not_isLong {limit : Int} (h : ¬IsLong limit) :
    RollError.ofLimit limit = .runaway limit := by
  by_cases hneg : limit < 0
  · exact RollError.ofLimit_of_lt (Nat.not_le.1 fun hlong => h ⟨hneg, hlong⟩)
  · exact RollError.ofLimit_of_nonneg (Int.not_lt.1 hneg)

/-- A pool drew the numbers `drawn` from what was left of a script, and has run away: the explosions that
are allowed were drawn behind the other dice, and one more die explodes. -/
structure RanAway (q : Request) (limit : Int) (script drawn : List Pips) : Prop where
  pool : 0 < q.poolSize
  valid : ∀ v ∈ drawn, 1 ≤ v.count ∧ v.count ≤ 10
  explodes : ∃ t, q.threshold = some t ∧ limit < (drawn.countP fun v => (t : Int) ≤ v.count : Nat)
  /-- The same request with explosions forbidden rolls all other dice. -/
  others : ∃ r rest, (resolve q.withoutExplosions limit).playOn (Script.ofList (script.map .pips))
      = (.ok r, rest)
    ∧ r.values <+: drawn ∧ (drawn.length : Int) = r.dice.length + max limit 0

namespace Ending

/-- The ending that an outcome belongs to. A face that is too long to be shown is none of them, nor is a
failure that only another source than a script has. -/
def of? : Except RollError Result → Option Ending
  | .ok _ => some .result
  | .error (.invalidFace _) => some .badFace
  | .error (.exhausted (.script _)) => some .exhausted
  | .error (.exhausted (.own ..)) => none
  | .error (.runaway _) => some .runaway
  | .error (.unwritable (.limit ..)) => some .untold
  | .error (.unwritable (.face _)) => none

/-- The roll of a request from a script, of which `past` faces were handed out before and `script` was
left, drew the numbers `drawn` and ended with this outcome, in this way. -/
def Tells (q : Request) (limit : Int) (past : Nat) (script drawn : List Pips)
    (outcome : Except RollError Result) : Ending → Prop
  | .result =>
    ∃ r, outcome = .ok r ∧ r.values = drawn ∧ ∀ v ∈ drawn, 1 ≤ v.count ∧ v.count ≤ 10
  | .badFace =>
    ∃ shown front last, outcome = .error (.invalidFace shown) ∧ last.text = .ok shown
      ∧ drawn = front ++ [last] ∧ (∀ v ∈ front, 1 ≤ v.count ∧ v.count ≤ 10)
      ∧ ¬(1 ≤ last.count ∧ last.count ≤ 10)
  | .exhausted =>
    outcome = .error (.exhausted (.script (past + script.length))) ∧ drawn = script
      ∧ ∀ v ∈ drawn, 1 ≤ v.count ∧ v.count ≤ 10
  | .runaway => outcome = .error (.runaway limit) ∧ ¬IsLong limit ∧ RanAway q limit script drawn
  | .untold =>
    outcome = .error (.unwritable (.limit limit .tooLargeToWrite)) ∧ IsLong limit
      ∧ RanAway q limit script drawn

variable {q : Request} {limit : Int} {past : Nat} {script drawn : List Pips}
  {outcome : Except RollError Result} {e : Ending}

theorem Tells.of?_eq (h : e.Tells q limit past script drawn outcome) : of? outcome = some e := by
  cases e with
  | result =>
    obtain ⟨r, rfl, -⟩ := h
    rfl
  | badFace =>
    obtain ⟨shown, front, last, rfl, -⟩ := h
    rfl
  | exhausted =>
    obtain ⟨rfl, -⟩ := h
    rfl
  | runaway =>
    obtain ⟨rfl, -⟩ := h
    rfl
  | untold =>
    obtain ⟨rfl, -⟩ := h
    rfl

/-- A roll ends in one way only. -/
theorem Tells.existsUnique (h : e.Tells q limit past script drawn outcome) :
    ∃! e : Ending, e.Tells q limit past script drawn outcome :=
  ⟨e, h, fun _ h' => Option.some.inj (h'.of?_eq.symm.trans h.of?_eq)⟩

/-- **A roll that has run away ends as its limit is told.** -/
theorem existsUnique_of_ranAway (h : RanAway q limit script drawn) (past : Nat) :
    ∃! e : Ending, e.Tells q limit past script drawn (.error (.ofLimit limit)) := by
  by_cases hlong : IsLong limit
  · exact Tells.existsUnique (e := .untold) ⟨by rw [ofLimit_of_isLong hlong], hlong, h⟩
  · exact Tells.existsUnique (e := .runaway) ⟨by rw [ofLimit_of_not_isLong hlong], hlong, h⟩

end Ending

open Request

/-- **A roll that has run away** drew what the same request draws with explosions forbidden, and then
the explosions that are allowed. -/
theorem Request.Calls.ranAway {q : Request} {limit : Int} {dice : List Die} {script rest : List Pips}
    (hcalls : q.Calls limit [] dice)
    (hvalid : ∀ d ∈ dice, 1 ≤ d.value.count ∧ d.value.count ≤ 10)
    (hscript : script = dice.map (·.value) ++ rest)
    (hturn : q.turn limit (dice.map (·.value)) = .runaway) :
    RanAway q limit script (dice.map (·.value)) := by
  have hlen := hcalls.length_eq_of_runaway hturn
  have hbursts := limit_lt_of_runaway hturn
  obtain ⟨v, hv, hexplodes⟩ : ∃ v ∈ dice.map (·.value), q.explodes v := by
    rw [length_bursts] at hbursts
    exact List.countP_pos_iff.1 (by omega)
  simp only [explodes, Bool.and_eq_true, Bool.not_eq_true', Option.any_eq_true] at hexplodes
  obtain ⟨hc, threshold, hthreshold, -⟩ := hexplodes
  have hcount : q.explodes = fun v => decide ((threshold : Int) ≤ v.count) :=
    funext (explodes_eq hc hthreshold)
  rw [length_bursts, hcount] at hbursts
  -- The dice before the explosions are rolled without them, too.
  have hruns := hcalls.runs_withoutExplosions (by omega)
  obtain ⟨u, hfirst, -⟩ : ∃ u, Hands (Script.ofList (script.map .pips))
      ((dice.take (q.base (dice.map (·.value)))).map (·.value)) u
        ∧ Hands u ((dice.drop (q.base (dice.map (·.value)))).map (·.value))
          ⟨0 + (dice.map (·.value)).length, rest.map .pips⟩ := by
    rw [← hands_append_iff, ← List.map_append, List.take_append_drop]
    exact hands_script_iff.2 ⟨rest, hscript, rfl⟩
  have hplay := resolve_playOn_eq_ok_iff_runs.2
    ⟨_, hruns, fun d hd => hvalid d (List.mem_of_mem_take hd), hfirst, rfl⟩
  refine ⟨isChance_eq_false_iff.1 hc, List.forall_mem_map.2 hvalid,
    ⟨threshold, hthreshold, by omega⟩, _, u, hplay, ?_, ?_⟩
  · rw [result_values]
    exact (List.take_prefix _ _).map _
  · rw [result_dice, List.length_map, List.length_take_of_le (by omega)]
    omega

/-- **A roll from a script ends in exactly one way** — for every request, every limit and every script of
numbers that can be shown, from which faces may have been handed out before: what was drawn is the
beginning of what was left, and just one of the endings tells what became of it. -/
theorem resolve_ends_one_way (q : Request) (limit : Int) (past : Nat) {script : List Pips}
    (hshown : ∀ v ∈ script, v.count.natAbs < Nat.pow 10 Numeral.maxDigits) :
    let source : Script := ⟨past, script.map .pips⟩
    ∃ drawn, q.drawn limit source = drawn.map .pips ∧ drawn <+: script
      ∧ ∃! e : Ending, e.Tells q limit past script drawn ((resolve q limit).playOn source).1 := by
  intro source
  obtain ⟨faces, outcome, s', h⟩ := q.exists_draws limit [] source
  rw [h.drawn_eq, h.resolve_playOn]
  obtain ⟨dice, last, t, hcalls, hvalid, hhands, rfl, hend, hlast⟩ := h.exists_called
  have hvalues : ∀ v ∈ dice.map (·.value), 1 ≤ v.count ∧ v.count ≤ 10 := List.forall_mem_map.2 hvalid
  obtain ⟨rest, hscript, rfl⟩ := hands_script_iff.1 hhands
  have hpips : dice.map (fun d => Face.pips d.value) = (dice.map (·.value)).map .pips := by
    rw [List.map_map]
    rfl
  have hprefix : dice.map (·.value) <+: script := ⟨rest, hscript.symm⟩
  rw [hpips]
  cases hend with
  | finish hturn =>
    exact ⟨dice.map (·.value), List.append_nil _, hprefix,
      Ending.Tells.existsUnique (e := .result) ⟨_, rfl, result_values _ _, hvalues⟩⟩
  | runaway hturn =>
    exact ⟨dice.map (·.value), List.append_nil _, hprefix,
      Ending.existsUnique_of_ranAway (hcalls.ranAway hvalid hscript hturn) past⟩
  | exhausted hturn hdraw =>
    cases rest with
    | nil =>
      cases hdraw
      rw [List.append_nil] at hscript
      refine ⟨dice.map (·.value), List.append_nil _, hprefix,
        Ending.Tells.existsUnique (e := .exhausted) ⟨?_, hscript.symm, hvalues⟩⟩
      rw [hscript]
    | cons v rest => cases hdraw
  | invalid hturn hdraw hf =>
    cases rest with
    | nil => cases hdraw
    | cons v rest =>
      cases hdraw
      obtain ⟨shown, hv⟩ := Pips.exists_text_of_lt (hshown v (by simp [hscript]))
      refine ⟨dice.map (·.value) ++ [v], by simp, ⟨rest, by simp [hscript]⟩,
        Ending.Tells.existsUnique (e := .badFace)
          ⟨shown, _, v, by simp [RollError.ofFace, hv], hv, rfl, hvalues, fun hcount => ?_⟩⟩
      rw [Face.valid?_eq_some_iff.2 ⟨rfl, hcount⟩] at hf
      cases hf
  | die hturn hdraw hf _ => exact absurd (hf.symm.trans (hlast _ List.mem_cons_self)) (by simp)

/-- A ten explodes into an eleven, which is drawn and then refused. -/
theorem resolve_ends_one_way_bad_explosion :
    let q : Request := { poolSize := 1 }
    let script : List Pips := [.number 10, .number 11, .number 3]
    (∀ v ∈ script, v.count.natAbs < Nat.pow 10 Numeral.maxDigits)
      ∧ Ending.badFace.Tells q 1 0 script [.number 10, .number 11]
        ((resolve q 1).playOn (Script.ofList (script.map .pips))).1 := by
  intro q script
  have hshown : ∀ v ∈ script, v.count.natAbs < Nat.pow 10 Numeral.maxDigits := fun v hv =>
    have hsmall : ∀ v ∈ script, v.count.natAbs < Nat.pow 10 2 := by decide
    Numeral.lt_pow_maxDigits (hsmall v hv) (by decide)
  have hdraws : q.Draws 1 [] (Script.ofList (script.map .pips))
      [.pips (.number 10), .pips (.number 11)] (.error (.ofFace (.pips (.number 11))))
      ⟨2, [.pips (.number 3)]⟩ :=
    .die (o := .initial) (i := none) (by decide) rfl rfl
      (.invalid (o := .explosion) (i := some 0) (by decide) rfl rfl)
  obtain ⟨drawn, hdrawn, -, e, he, -⟩ := resolve_ends_one_way q 1 0 hshown
  change q.drawn 1 (Script.ofList _) = _ at hdrawn
  rw [hdraws.drawn_eq] at hdrawn
  obtain rfl : [.number 10, .number 11] = drawn :=
    List.map_injective_iff.2 (fun _ _ => Face.pips.inj) hdrawn
  have hending := he.of?_eq
  change Ending.of? ((resolve q 1).playOn (Script.ofList _)).1 = _ at hending
  rw [hdraws.resolve_playOn] at hending
  rcases RollError.ofFace_eq (.pips (.number 11)) with ⟨shown, hface⟩ | ⟨fault, hface⟩
  · rw [hface] at hending
    obtain rfl := Option.some.inj hending
    exact ⟨hshown, he⟩
  · rw [hface] at hending
    cases hending

/-- **A limit far below zero is not told**: a ten would explode, against a limit of 4301 digits, and the
roll has none of the other endings. -/
theorem not_tells_of_long_limit :
    let limit : Int := -(Nat.pow 10 Numeral.maxDigits : Nat)
    let script : List Pips := [.number 10]
    let outcome := ((resolve { poolSize := 1 } limit).playOn (Script.ofList (script.map .pips))).1
    outcome = .error (.unwritable (.limit limit .tooLargeToWrite))
      ∧ ∀ drawn (e : Ending), e ≠ .untold → ¬e.Tells { poolSize := 1 } limit 0 script drawn outcome := by
  intro limit script outcome
  have hpos : 0 < Nat.pow 10 Numeral.maxDigits :=
    Numeral.lt_pow_maxDigits (k := 0) (by decide) (by decide)
  have hlong : IsLong limit :=
    ⟨Int.neg_neg_of_pos (Int.natCast_pos.2 hpos),
      Nat.le_of_eq ((Int.natAbs_neg _).trans (Int.natAbs_natCast _)).symm⟩
  have hnone : limit.toNat = 0 := Int.toNat_of_nonpos (Int.le_of_lt hlong.1)
  have hturn : Request.turn { poolSize := 1 } limit [.number 10] = .runaway := by
    rw [turn_eq_runaway_iff, hnone]
    decide
  have hdraws : Request.Draws { poolSize := 1 } limit [] (Script.ofList (script.map .pips))
      [.pips (.number 10)] (.error (.ofLimit limit)) ⟨1, []⟩ :=
    .die (o := .initial) (i := none) (turn_of_lt_opening (by decide)) rfl rfl (.runaway hturn)
  have houtcome : outcome = .error (.unwritable (.limit limit .tooLargeToWrite)) := by
    rw [← ofLimit_of_isLong hlong]
    exact congrArg Prod.fst hdraws.resolve_playOn
  refine ⟨houtcome, fun drawn e he htells => he ?_⟩
  have hending := htells.of?_eq
  rw [houtcome] at hending
  exact (Option.some.inj hending).symm

end DicePool
