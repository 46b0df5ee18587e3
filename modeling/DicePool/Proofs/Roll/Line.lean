import DicePool.Proofs.Number.Decimal
import DicePool.Proofs.Roll.Layout
import DicePool.Roll.Render
import Mathlib.Data.List.Forall2

/-!
# Proofs/Roll/Line — a line of chat can be read back

The line about a roll names the pool, the modifiers in force and every die with its brackets. Main
statement `Result.eq_of_render_eq`: two rolls of the same person that are told in the same line are
the same roll, down to the die that caused each die, and were asked for alike. What the line leaves
out follows from what it says, as the numbers of a roll determine why each of its dice was rolled.

A line is read from the left, word by word. Each word ends where a character stands that it cannot
contain, whatever comes after (`Proofs/Text/Runs`), so that nothing depends on how long the list of
dice is.
-/

namespace DicePool

/-! ## The texts of dice -/

/-- A list of steps that all have a result has their results. -/
theorem mapM_eq_ok_iff {α β ε : Type} {f : α → Except ε β} {xs : List α} {ys : List β} :
    xs.mapM f = .ok ys ↔ List.Forall₂ (fun x y => f x = .ok y) xs ys := by
  induction xs generalizing ys with
  | nil =>
    rw [List.mapM_nil, List.forall₂_nil_left_iff]
    exact ⟨fun h => (Except.ok.inj h).symm, fun h => h ▸ rfl⟩
  | cons x xs ih =>
    rw [List.mapM_cons, List.forall₂_cons_left_iff]
    cases f x with
    | error e => simp [bind, Except.bind]
    | ok y =>
      simp only [← ih]
      cases xs.mapM f <;> simp [bind, Except.bind, pure, Except.pure, eq_comm]

/-- The characters of the text of a number or a truth value. -/
def Pips.isTextChar (c : Char) : Bool :=
  c.isAlphanum || c == '-'

theorem Pips.isTextChar_of_isNumeralChar {c : Char} (h : Numeral.isNumeralChar c) :
    isTextChar c := by
  simp only [Numeral.isNumeralChar, isTextChar, Char.isAlphanum, Bool.or_eq_true] at h ⊢
  tauto

theorem Pips.isTextChar_of_mem {p : Pips} {w : String} (h : p.text = .ok w) {c : Char}
    (hc : c ∈ w.toList) : isTextChar c := by
  cases p with
  | number n =>
    rw [Numeral.toString_of_write h] at hc
    exact isTextChar_of_isNumeralChar (Numeral.isNumeralChar_of_mem_toString hc)
  | truth b =>
    obtain rfl := Except.ok.inj h
    exact List.all_eq_true.1 (by cases b <;> decide) c hc

/-- **The text of a number or a truth value determines it.** -/
theorem Pips.eq_of_text_eq {p q : Pips} {w : String} (hp : p.text = .ok w) (hq : q.text = .ok w) :
    p = q := by
  have hmixed : ∀ {n : Int} {b : Bool}, Numeral.write n = .ok w →
      w = (if b then "True" else "False") → False := by
    intro n b hn hb
    have hchars : ∀ c ∈ w.toList, Numeral.isNumeralChar c := fun c hc =>
      Numeral.isNumeralChar_of_mem_toString (Numeral.toString_of_write hn ▸ hc)
    subst hb
    cases b with
    | true => exact absurd (hchars 'T' (by decide)) (by decide)
    | false => exact absurd (hchars 'F' (by decide)) (by decide)
  cases p with
  | number m =>
    cases q with
    | number n =>
      have htext := (Numeral.toString_of_write hp).symm.trans (Numeral.toString_of_write hq)
      rw [Numeral.toString_injective (congrArg String.toList htext)]
    | truth b => exact (hmixed hp (Except.ok.inj hq).symm).elim
  | truth a =>
    cases q with
    | number n => exact (hmixed hq (Except.ok.inj hp).symm).elim
    | truth b =>
      have htext := (Except.ok.inj hp).trans (Except.ok.inj hq).symm
      revert htext
      cases a <;> cases b <;> decide

theorem Origin.toList_bracket (o : Origin) (w : String) :
    (o.bracket w).toList = match o with
      | .explosion => '(' :: w.toList ++ [')']
      | .roteReroll => '[' :: w.toList ++ [']']
      | .initial => w.toList := by
  cases o with
  | explosion | roteReroll =>
    simp only [bracket, toString, String.toList_append]
    rfl
  | initial => rfl

/-- **Brackets determine why a die was rolled**, around texts that have none. -/
theorem Origin.bracket_inj {o o' : Origin} {v w : String} (hv : ∀ c ∈ v.toList, Pips.isTextChar c)
    (hw : ∀ c ∈ w.toList, Pips.isTextChar c) (h : o.bracket v = o'.bracket w) : o = o' ∧ v = w := by
  have hmem : ∀ {c : Char} {u : String}, (∀ c ∈ u.toList, Pips.isTextChar c) →
      Pips.isTextChar c = false → c ∉ u.toList := fun hu hc hcu => by
    simp [hu _ hcu] at hc
  have hround : ∀ {o : Origin} {u : String}, (∀ c ∈ u.toList, Pips.isTextChar c) →
      ('(' ∈ (o.bracket u).toList ↔ o = .explosion) := by
    intro o u hu
    have := hmem (c := '(') hu (by decide)
    cases o <;> simp [toList_bracket, this]
  have hsquare : ∀ {o : Origin} {u : String}, (∀ c ∈ u.toList, Pips.isTextChar c) →
      ('[' ∈ (o.bracket u).toList ↔ o = .roteReroll) := by
    intro o u hu
    have := hmem (c := '[') hu (by decide)
    cases o <;> simp [toList_bracket, this]
  have hexplosion : o = .explosion ↔ o' = .explosion := by rw [← hround hv, h, hround hw]
  have hreroll : o = .roteReroll ↔ o' = .roteReroll := by rw [← hsquare hv, h, hsquare hw]
  obtain rfl : o = o' := by cases o <;> cases o' <;> simp at hexplosion hreroll ⊢
  refine ⟨rfl, String.toList_inj.1 ?_⟩
  have htext := congrArg String.toList h
  rw [toList_bracket, toList_bracket] at htext
  cases o with
  | explosion | roteReroll => exact List.append_cancel_right (List.cons.inj htext).2
  | initial => exact htext

theorem Die.exists_bracket {d : Die} {w : String} (h : d.text = .ok w) :
    ∃ shown, d.value.text = .ok shown ∧ w = d.origin.bracket shown := by
  rw [Die.text] at h
  cases hshown : d.value.text with
  | error e => rw [hshown] at h; cases h
  | ok shown => exact ⟨shown, rfl, by rw [hshown] at h; exact (Except.ok.inj h).symm⟩

/-- **The text of a die determines what it shows and why it was rolled.** -/
theorem Die.eq_of_text_eq {d e : Die} {w : String} (hd : d.text = .ok w) (he : e.text = .ok w) :
    d.origin = e.origin ∧ d.value = e.value := by
  obtain ⟨v, hv, rfl⟩ := exists_bracket hd
  obtain ⟨u, hu, hvu⟩ := exists_bracket he
  obtain ⟨horigin, rfl⟩ := Origin.bracket_inj (fun _ => Pips.isTextChar_of_mem hv)
    (fun _ => Pips.isTextChar_of_mem hu) hvu
  exact ⟨horigin, Pips.eq_of_text_eq hv hu⟩

/-- A character inside the text of a die: neither of those that stand between two. -/
def Die.isTextChar (c : Char) : Bool :=
  c != ',' && c != ' '

theorem Die.isTextChar_of_mem {d : Die} {w : String} (h : d.text = .ok w) :
    ∀ c ∈ w.toList, isTextChar c := by
  obtain ⟨v, hv, rfl⟩ := exists_bracket h
  have hshown : ∀ c ∈ v.toList, isTextChar c := by
    intro c hc
    have := Pips.isTextChar_of_mem hv hc
    simp only [isTextChar, Bool.and_eq_true, bne_iff_ne]
    constructor <;>
      · rintro rfl
        exact absurd this (by decide)
  rw [Origin.toList_bracket]
  cases d.origin with
  | explosion | roteReroll =>
    rw [List.forall_mem_append, List.forall_mem_cons]
    exact ⟨⟨by decide, hshown⟩, List.forall_mem_singleton.2 (by decide)⟩
  | initial => exact hshown

/-- **The texts of dice determine what they show.** -/
theorem values_eq_of_texts_eq {ds es : List Die} {ws : List String}
    (hds : ds.mapM Die.text = .ok ws) (hes : es.mapM Die.text = .ok ws) :
    ds.map (·.value) = es.map (·.value) := by
  rw [mapM_eq_ok_iff] at hds hes
  induction hds generalizing es with
  | nil =>
    rw [List.forall₂_nil_right_iff.1 hes]
  | cons hd _ ih =>
    obtain ⟨e, es, he, htail, rfl⟩ := List.forall₂_cons_right_iff.1 hes
    rw [List.map_cons, List.map_cons, (Die.eq_of_text_eq hd he).2, ih htail]

theorem isTextChar_of_texts {ds : List Die} {ws : List String} (h : ds.mapM Die.text = .ok ws) :
    ∀ w ∈ ws.map String.toList, ∀ c ∈ w, Die.isTextChar c := by
  rw [mapM_eq_ok_iff] at h
  induction h with
  | nil => simp
  | cons hd _ ih =>
    rw [List.map_cons, List.forall_mem_cons]
    exact ⟨Die.isTextChar_of_mem hd, ih⟩

/-! ## Modifiers -/

namespace Modifiers

/-- The modifiers that show for a threshold. -/
def againShown : Option Nat → List String
  | none => ["no 10-again"]
  | some t => if t < 10 then [s!"{t}-again"] else []

theorem shown_eq (m : Modifiers) :
    m.shown = (if m.rote then ["rote"] else []) ++ againShown m.threshold := rfl

theorem threshold_mem (m : Modifiers) : m.threshold ∈ [none, some 8, some 9, some 10] := by
  grind [threshold]

/-- **The modifiers that show determine the rote quality and the threshold.** -/
theorem eq_of_shown_eq {m n : Modifiers} (h : m.shown = n.shown) :
    m.rote = n.rote ∧ m.threshold = n.threshold := by
  rw [shown_eq, shown_eq] at h
  have hagain : ∀ t ∈ [none, some 8, some 9, some 10], "rote" ∉ againShown t := by decide
  have hrote : ∀ k : Modifiers,
      "rote" ∈ (if k.rote then ["rote"] else []) ++ againShown k.threshold ↔ k.rote := by
    intro k
    cases k.rote <;> simp [hagain _ k.threshold_mem]
  have hmn : m.rote = n.rote := by rw [Bool.eq_iff_iff, ← hrote, h, hrote]
  rw [hmn] at h
  have hinj : ∀ t ∈ [none, some 8, some 9, some 10], ∀ u ∈ [none, some 8, some 9, some 10],
      againShown t = againShown u → t = u := by decide
  exact ⟨hmn, hinj _ m.threshold_mem _ n.threshold_mem (List.append_cancel_left h)⟩

/-- A character inside the name of a modifier that shows. -/
def isShownChar (c : Char) : Bool :=
  c != ',' && c != ')'

theorem isShownChar_of_mem (m : Modifiers) :
    ∀ w ∈ m.shown.map String.toList, ∀ c ∈ w, isShownChar c := by
  have hall : ∀ rote : Bool, ∀ t ∈ [none, some 8, some 9, some 10],
      (((if rote then ["rote"] else []) ++ againShown t).map String.toList).all
        fun w => w.all isShownChar := by decide
  exact fun w hw => List.all_eq_true.1
    (List.all_eq_true.1 (hall m.rote m.threshold m.threshold_mem) w hw)

end Modifiers

/-! ## Lines -/

/-- Modifiers in brackets, or none, can be told apart from what follows them. -/
theorem bracketed_append_inj {ms ns : List String} {x y : List Char}
    (hms : ∀ w ∈ ms.map String.toList, ∀ c ∈ w, Modifiers.isShownChar c)
    (hns : ∀ w ∈ ns.map String.toList, ∀ c ∈ w, Modifiers.isShownChar c)
    (h : (bracketed ms).toList ++ ' ' :: 'a' :: x = (bracketed ns).toList ++ ' ' :: 'a' :: y) :
    ms = ns ∧ x = y := by
  have hcons : ∀ {m : String} {ms : List String} {z : List Char},
      (bracketed (m :: ms)).toList ++ z
        = ' ' :: '(' :: ([',', ' '].intercalate ((m :: ms).map String.toList) ++ ')' :: z) := by
    intro m ms z
    simp [bracketed]
  cases ms with
  | nil =>
    cases ns with
    | nil => exact ⟨rfl, by simpa [bracketed] using h⟩
    | cons n ns =>
      rw [hcons] at h
      simp [bracketed] at h
  | cons m ms =>
    cases ns with
    | nil =>
      rw [hcons] at h
      simp [bracketed] at h
    | cons n ns =>
      rw [hcons, hcons] at h
      obtain ⟨hwords, hrest⟩ := intercalate_append_inj (by decide) (by simp) (by simp) hms hns
        (by simp; decide) (by simp; decide) (List.cons.inj (List.cons.inj h).2).2
      rw [(List.map_injective_iff.2 fun _ _ => String.toList_inj.1) hwords]
      simpa using hrest

/-- The texts of dice in a list can be told apart, and so can a remark behind them. -/
theorem texts_append_inj {ds es : List String} {x y : List Char} (hd : ds ≠ []) (he : es ≠ [])
    (hds : ∀ w ∈ ds.map String.toList, ∀ c ∈ w, Die.isTextChar c)
    (hes : ∀ w ∈ es.map String.toList, ∀ c ∈ w, Die.isTextChar c)
    (hx : ∀ c ∈ x.head?, c = ' ') (hy : ∀ c ∈ y.head?, c = ' ')
    (h : (", ".intercalate ds).toList ++ x = (", ".intercalate es).toList ++ y) : ds = es := by
  rw [String.toList_intercalate, String.toList_intercalate] at h
  have hstop : ∀ {z : List Char}, (∀ c ∈ z.head?, c = ' ') →
      ∀ c ∈ z.head?, ¬Die.isTextChar c ∧ c ≠ ',' := fun hz c hc => by
    rw [hz c hc]
    decide
  obtain ⟨hwords, -⟩ := intercalate_append_inj (by decide) (by simpa using hd) (by simpa using he)
    hds hes (hstop hx) (hstop hy) h
  exact (List.map_injective_iff.2 fun _ _ => String.toList_inj.1) hwords

/-- What a line says before a colon does not hide what it says behind. -/
theorem append_colon_inj {a b x y : List Char} (ha : ':' ∉ a) (hb : ':' ∉ b)
    (h : a ++ ':' :: x = b ++ ':' :: y) : a = b ∧ x = y := by
  have hrun : ∀ {z : List Char}, ':' ∉ z → ∀ c ∈ z, (c != ':') = true := fun hz c hc =>
    bne_iff_ne.2 fun hcolon => hz (hcolon ▸ hc)
  obtain ⟨hab, hxy⟩ := append_inj_of_runs (hrun ha) (hrun hb) (by simp) (by simp) h
  exact ⟨hab, (List.cons.inj hxy).2⟩

/-- The characters of a line about a chance die. -/
theorem exists_toList_chanceLine (who : String) (b s : Bool) (ds : List String) :
    ∃ verdict : List Char, ':' ∉ verdict
      ∧ (chanceLine who b s ds).toList
        = who.toList ++ (" rolled ".toList ++ ("a chance die and ".toList
          ++ (verdict ++ ':' :: ' ' :: (", ".intercalate ds).toList))) := by
  refine ⟨(if b then "botched" else if s then "succeeded" else "failed").toList, ?_, ?_⟩
  · revert b s
    decide
  · simp [chanceLine, toString]

theorem colon_notMem_successWords {n : Int} {b : Bool} :
    ':' ∉ (successWords (toString n) b).toList := by
  have hnumeral : ':' ∉ (toString n).toList := fun hc =>
    absurd (Numeral.isNumeralChar_of_mem_toString hc) (by decide)
  have hwords : ∀ words : String, ':' ∉ words.toList → ':' ∉ (toString n ++ words).toList := by
    intro words h
    rw [String.toList_append, List.mem_append, not_or]
    exact ⟨hnumeral, h⟩
  cases b with
  | true => exact hwords " success" (by decide)
  | false => exact hwords " successes" (by decide)

section

variable {who : String} {ds es : List String}

/-- **A line about a chance die determines the texts of the dice.** -/
theorem eq_of_chanceLine_eq {b s b' s' : Bool} (hd : ds ≠ []) (he : es ≠ [])
    (hds : ∀ w ∈ ds.map String.toList, ∀ c ∈ w, Die.isTextChar c)
    (hes : ∀ w ∈ es.map String.toList, ∀ c ∈ w, Die.isTextChar c)
    (h : chanceLine who b s ds = chanceLine who b' s' es) : ds = es := by
  obtain ⟨v, hv, hleft⟩ := exists_toList_chanceLine who b s ds
  obtain ⟨w, hw, hright⟩ := exists_toList_chanceLine who b' s' es
  rw [← String.toList_inj, hleft, hright] at h
  obtain ⟨-, hdice⟩ :=
    append_colon_inj hv hw (List.append_cancel_left (List.append_cancel_left
      (List.append_cancel_left h)))
  refine texts_append_inj (x := []) (y := []) hd he hds hes (by simp) (by simp) ?_
  simpa using hdice

/-- The characters of a line about a pool. -/
theorem toList_poolLine (pool : String) (mods : List String) (successes : String)
    (exceptional : Bool) :
    (poolLine who pool mods successes ds exceptional).toList
      = who.toList ++ (" rolled ".toList ++ (pool.toList ++ (" dice".toList
        ++ ((bracketed mods).toList ++ ' ' :: 'a' :: ("nd got ".toList ++ (successes.toList
        ++ ':' :: ' ' :: ((", ".intercalate ds).toList
        ++ (if exceptional then " Exceptional success!" else "").toList))))))) := by
  simp [poolLine, toString]

/-- **A line about a pool determines the size, the modifiers and the texts of the dice.** -/
theorem eq_of_poolLine_eq {m n j k : Int} {ms ns : List String} {b b' e e' : Bool} (hd : ds ≠ [])
    (he : es ≠ []) (hds : ∀ w ∈ ds.map String.toList, ∀ c ∈ w, Die.isTextChar c)
    (hes : ∀ w ∈ es.map String.toList, ∀ c ∈ w, Die.isTextChar c)
    (hms : ∀ w ∈ ms.map String.toList, ∀ c ∈ w, Modifiers.isShownChar c)
    (hns : ∀ w ∈ ns.map String.toList, ∀ c ∈ w, Modifiers.isShownChar c)
    (h : poolLine who (toString m) ms (successWords (toString j) b) ds e
      = poolLine who (toString n) ns (successWords (toString k) b') es e') :
    m = n ∧ ms = ns ∧ ds = es := by
  rw [← String.toList_inj, toList_poolLine, toList_poolLine] at h
  obtain ⟨rfl, hmods⟩ := Numeral.toString_append_inj (by simp; decide) (by simp; decide)
    (List.append_cancel_left (List.append_cancel_left h))
  obtain ⟨rfl, hsuccesses⟩ := bracketed_append_inj hms hns (List.append_cancel_left hmods)
  obtain ⟨-, hdice⟩ := append_colon_inj colon_notMem_successWords colon_notMem_successWords
    (List.append_cancel_left hsuccesses)
  refine ⟨rfl, rfl, texts_append_inj hd he hds hes ?_ ?_ (List.cons.inj hdice).2⟩ <;>
    · split <;> simp

/-- **A chance die is not told like a pool.** -/
theorem chanceLine_ne_poolLine {b s e : Bool} {n : Int} {ms : List String} {successes : String} :
    chanceLine who b s ds ≠ poolLine who (toString n) ms successes es e := by
  intro h
  obtain ⟨v, -, hchance⟩ := exists_toList_chanceLine who b s ds
  obtain ⟨c, cs, hnumeral⟩ := List.exists_cons_of_ne_nil (Numeral.toString_ne_nil n)
  have hc : Numeral.isNumeralChar c :=
    Numeral.isNumeralChar_of_mem_toString (n := n) (hnumeral ▸ List.mem_cons_self)
  rw [← String.toList_inj, hchance, toList_poolLine, hnumeral] at h
  have hfirst := List.append_cancel_left (List.append_cancel_left h)
  rw [← (List.cons.inj hfirst).1] at hc
  exact absurd hc (by decide)

end

/-! ## Requests that the dice do not tell apart -/

namespace Request

variable {q q' : Request}

/-- Two requests for the same roll: both for a chance die, or for the same pool under the same rote
quality and the same threshold. -/
def Alike (q q' : Request) : Prop :=
  (q.poolSize ≤ 0 ∧ q'.poolSize ≤ 0)
    ∨ (q.poolSize = q'.poolSize ∧ q.rote = q'.rote ∧ q.threshold = q'.threshold)

theorem Alike.isChance (h : q.Alike q') : q.isChance = q'.isChance := by
  rcases h with ⟨hq, hq'⟩ | ⟨hsize, -⟩
  · simp [Request.isChance, hq, hq']
  · simp [Request.isChance, hsize]

theorem Alike.opening (h : q.Alike q') : q.opening = q'.opening := by
  rw [Request.opening, Request.opening, ← h.isChance]
  rcases h with ⟨hq, -⟩ | ⟨hsize, -⟩
  · simp [Request.isChance, hq]
  · rw [hsize]

theorem Alike.rerolls (h : q.Alike q') (vs : List Pips) : q.rerolls vs = q'.rerolls vs := by
  rw [Request.rerolls, Request.rerolls, ← h.isChance, ← h.opening]
  rcases h with ⟨hq, -⟩ | ⟨-, hrote, -⟩
  · simp [Request.isChance, hq]
  · rw [hrote]

theorem Alike.bursts (h : q.Alike q') (vs : List Pips) : q.bursts vs = q'.bursts vs := by
  refine congrArg vs.findIdxs (funext fun v => ?_)
  rw [explodes, explodes, ← h.isChance]
  rcases h with ⟨hq, -⟩ | ⟨-, -, hthreshold⟩
  · simp [Request.isChance, hq]
  · rw [hthreshold]

/-- **The same numbers have the same causes.** -/
theorem Alike.causes (h : q.Alike q') (vs : List Pips) : q.causes vs = q'.causes vs := by
  rw [Request.causes, Request.causes, h.opening, h.rerolls, h.bursts]

/-- **The same dice come to the same.** -/
theorem Alike.result (h : q.Alike q') (dice : List Die) : q.result dice = q'.result dice := by
  rw [Request.result, Request.result, h.isChance, base, base, h.opening, h.rerolls]

theorem eq_of_values_eq_of_causes_eq {ds es : List Die}
    (hvalues : ds.map (·.value) = es.map (·.value))
    (hcauses : ds.map Die.cause = es.map Die.cause) : ds = es := by
  induction ds generalizing es with
  | nil => exact (List.map_eq_nil_iff.1 hvalues.symm).symm
  | cons d ds ih =>
    cases es with
    | nil => cases hvalues
    | cons e es =>
      obtain ⟨hvalue, hvalues'⟩ := List.cons.inj hvalues
      obtain ⟨hcause, hcauses'⟩ := List.cons.inj hcauses
      obtain ⟨horigin, htrigger⟩ := Prod.mk.inj hcause
      obtain rfl : d = e := by
        cases d
        cases e
        rw [Die.mk.injEq]
        exact ⟨hvalue, horigin, htrigger⟩
      rw [ih hvalues' hcauses']

/-- **Runs of requests for the same roll that show the same numbers are the same.** -/
theorem Alike.runs_ext (h : q.Alike q') {limit limit' : Int} {ds es : List Die}
    (hds : q.Runs limit [] ds) (hes : q'.Runs limit' [] es)
    (hvalues : ds.map (·.value) = es.map (·.value)) : ds = es := by
  refine eq_of_values_eq_of_causes_eq hvalues ?_
  rw [(runs_iff_causes.1 hds).1, (runs_iff_causes.1 hes).1, h.causes, hvalues]

theorem opening_pos (q : Request) : 0 < q.opening := by
  unfold opening isChance
  split <;> simp_all

/-- **Some die falls.** -/
theorem Runs.ne_nil {limit : Int} {dice : List Die} (h : q.Runs limit [] dice) : dice ≠ [] := by
  rintro rfl
  have hroll : q.turn limit [] = .roll .initial none := turn_of_lt_opening q.opening_pos
  exact Turn.noConfusion (hroll.symm.trans h)

end Request

/-! ## Reading a line back -/

/-- A roll that has a line has it from the texts of its dice. -/
theorem Result.exists_texts_of_render {q : Request} {r : Result} {mention : Option String}
    {line : String} (h : r.render (some q) none mention = .ok line) :
    ∃ dice, r.dice.mapM Die.text = .ok dice ∧
      let who := (mention.filter (· ≠ "")).getD anybody
      line = if r.isChance then chanceLine who r.isBotch r.isSuccess dice
        else poolLine who (toString q.poolSize) q.describe
          (successWords (toString r.successes) (r.successes = 1)) dice r.isExceptional := by
  unfold render at h
  cases hdice : r.dice.mapM Die.text with
  | error e => rw [hdice] at h; cases h
  | ok dice =>
    refine ⟨dice, rfl, ?_⟩
    rw [hdice] at h
    cases hc : r.isChance with
    | true => simpa [hc, bind, Except.bind, pure, Except.pure, eq_comm] using h
    | false =>
      cases hpool : Numeral.write q.poolSize with
      | error e => simp [hc, poolText, hpool, bind, Except.bind] at h
      | ok pool =>
        cases hsuccesses : Numeral.write r.successes with
        | error e => simp [hc, poolText, hpool, hsuccesses, bind, Except.bind] at h
        | ok successes =>
          obtain rfl := Numeral.toString_of_write hpool
          obtain rfl := Numeral.toString_of_write hsuccesses
          simpa [hc, poolText, hpool, hsuccesses, bind, Except.bind, pure, Except.pure, eq_comm]
            using h

namespace Request

variable {q q' : Request} {ds es : List Die} {mention : Option String} {line : String}

theorem result_isChance (q : Request) (dice : List Die) :
    (q.result dice).isChance = q.isChance := by
  unfold result
  split <;> simp_all

theorem describe_of_pool (h : q.isChance = false) : q.describe = q.shown := by
  simp [describe, h]

/-- **A line determines what the dice show and how they were asked for.** -/
theorem alike_of_render_eq (hds : ds ≠ []) (hes : es ≠ [])
    (hline : (q.result ds).render (some q) none mention = .ok line)
    (hline' : (q'.result es).render (some q') none mention = .ok line) :
    q.Alike q' ∧ ds.map (·.value) = es.map (·.value) := by
  obtain ⟨texts, htexts, hleft⟩ := Result.exists_texts_of_render hline
  obtain ⟨texts', htexts', hright⟩ := Result.exists_texts_of_render hline'
  rw [result_dice] at htexts htexts'
  have hne : texts ≠ [] := by
    rintro rfl
    exact hds (List.forall₂_nil_right_iff.1 (mapM_eq_ok_iff.1 htexts))
  have hne' : texts' ≠ [] := by
    rintro rfl
    exact hes (List.forall₂_nil_right_iff.1 (mapM_eq_ok_iff.1 htexts'))
  have hchars := isTextChar_of_texts htexts
  have hchars' := isTextChar_of_texts htexts'
  rw [result_isChance] at hleft hright
  have hlines := hleft.symm.trans hright
  cases hc : q.isChance with
  | true =>
    cases hc' : q'.isChance with
    | true =>
      simp only [hc, hc', if_true] at hlines
      obtain rfl := eq_of_chanceLine_eq hne hne' hchars hchars' hlines
      refine ⟨.inl ⟨?_, ?_⟩, values_eq_of_texts_eq htexts htexts'⟩
      · simpa [isChance] using hc
      · simpa [isChance] using hc'
    | false =>
      simp only [hc, hc', if_true, Bool.false_eq_true, if_false] at hlines
      exact absurd hlines chanceLine_ne_poolLine
  | false =>
    cases hc' : q'.isChance with
    | true =>
      simp only [hc, hc', if_true, Bool.false_eq_true, if_false] at hlines
      exact absurd hlines.symm chanceLine_ne_poolLine
    | false =>
      simp only [hc, hc', Bool.false_eq_true, if_false, describe_of_pool] at hlines
      obtain ⟨hsize, hshown, rfl⟩ := eq_of_poolLine_eq hne hne' hchars hchars'
        (Modifiers.isShownChar_of_mem _) (Modifiers.isShownChar_of_mem _) hlines
      exact ⟨.inr ⟨hsize, Modifiers.eq_of_shown_eq hshown⟩, values_eq_of_texts_eq htexts htexts'⟩

end Request

open Request

variable {σ τ : Type} [Source σ] [Source τ]

/-- **A line of chat tells the whole roll** — two rolls, from any two sources and under any two
limits, that have the same line for the same person are the same in every die, its place and its
cause, and in all that they come to. Both were chance dice, or the same pool was asked for, under
the same rote quality and the same threshold. -/
theorem Result.eq_of_render_eq {q q' : Request} {limit limit' : Int} {s t : σ} {s' t' : τ}
    {r r' : Result} {mention : Option String} {line : String}
    (hr : (resolve q limit).playOn s = (.ok r, t))
    (hr' : (resolve q' limit').playOn s' = (.ok r', t'))
    (hline : r.render (some q) none mention = .ok line)
    (hline' : r'.render (some q') none mention = .ok line) :
    r = r' ∧ ((q.poolSize ≤ 0 ∧ q'.poolSize ≤ 0)
      ∨ (q.poolSize = q'.poolSize ∧ q.rote = q'.rote ∧ q.threshold = q'.threshold)) := by
  obtain ⟨ds, hds, -, -, rfl⟩ := resolve_playOn_eq_ok_iff_runs.1 hr
  obtain ⟨es, hes, -, -, rfl⟩ := resolve_playOn_eq_ok_iff_runs.1 hr'
  obtain ⟨halike, hvalues⟩ := alike_of_render_eq hds.ne_nil hes.ne_nil hline hline'
  obtain rfl := halike.runs_ext hds hes hvalues
  exact ⟨halike.result ds, halike⟩

/-- Exploding on eight is told alike whether or not exploding on nine is asked for as well. The line
names neither the cause of the three nor the flags of the request. -/
theorem Result.eq_of_render_eq_eightAgain :
    let q : Request := { poolSize := 1, eightAgain := true }
    let q' : Request := { poolSize := 1, eightAgain := true, nineAgain := true }
    let faces := [9, 3].map fun n => Face.pips (.number n)
    let more := faces ++ [.foreign .null]
    let r : Result := {
      dice := [⟨.number 9, .initial, none⟩, ⟨.number 3, .explosion, some 0⟩]
      successes := 1
      explodedCount := 1 }
    let line := "You rolled 1 dice (8-again) and got 1 success: 9, (3)"
    (resolve q 1).playOn (Script.ofList faces) = (.ok r, ⟨2, []⟩)
      ∧ (resolve q' 7).playOn (Script.ofList more) = (.ok r, ⟨2, [.foreign .null]⟩)
      ∧ r.render (some q) none none = .ok line ∧ r.render (some q') none none = .ok line
      ∧ q.poolSize = q'.poolSize ∧ q.rote = q'.rote ∧ q.threshold = q'.threshold := by
  intro q q' faces more r line
  have hruns : q.Runs 1 [] r.dice ∧ q'.Runs 7 [] r.dice :=
    ⟨runs_iff_causes.2 (by decide), runs_iff_causes.2 (by decide)⟩
  have hplay : (resolve q 1).playOn (Script.ofList faces) = (.ok r, ⟨2, []⟩) :=
    resolve_playOn_eq_ok_iff_runs.2 ⟨r.dice, hruns.1, by decide, rfl, by decide⟩
  have hplay' : (resolve q' 7).playOn (Script.ofList more) = (.ok r, ⟨2, [.foreign .null]⟩) :=
    resolve_playOn_eq_ok_iff_runs.2 ⟨r.dice, hruns.2, by decide, rfl, by decide⟩
  have hline : r.render (some q) none none = .ok line := by decide +kernel
  have hline' : r.render (some q') none none = .ok line := by decide +kernel
  have hpool := ((eq_of_render_eq hplay hplay' hline hline').2).resolve_left (by decide)
  exact ⟨hplay, hplay', hline, hline', hpool⟩

end DicePool
