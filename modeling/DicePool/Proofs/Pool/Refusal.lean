import DicePool.Proofs.Pool.RollText

/-!
# Proofs/Pool/Refusal — which texts are neither read nor refused

A text that asks for no roll is refused by a rule of the notation, except where a number is too long:
one that is to be read, or the pool that is to be named in the refusal of too many dice. Main
statement `requestOf_eq_numeral_iff`: a text fails in this way just in case it `Outgrows` the numbers
that can be read and written — its pool begins with a sum whose last number is too long to be read
(`Chokes`), or comes to a number above the limit that is too long to be written.

A number that is too long is met before anything that follows it, so the beginning of a sum decides:
`evaluate_number_eq_numeral_iff`, by the recursion that the sums are read by. Nines do both in the
end: too many of them are not read, and one more than the most that are read is not written.
-/

namespace DicePool.Pool

open Text Sentence

/-! ## Numbers that are too long to be read -/

/-- Of the numbers, the last one is too long to be read and no other is. -/
def Overlong (e : NumeralError) (xs : List (Sign × List Char)) : Prop :=
  ∃ ys y, xs = ys ++ [y] ∧ Readable ys ∧ Numeral.maxDigits < y.2.length ∧
    e = .tooManyDigits y.2.length

variable {expr : List Char} {e : NumeralError} {x : Sign × List Char} {xs : List (Sign × List Char)}

theorem overlong_singleton_iff :
    Overlong e [x] ↔ Numeral.maxDigits < x.2.length ∧ e = .tooManyDigits x.2.length := by
  constructor
  · rintro ⟨ys, y, hxs, -, hlong, rfl⟩
    obtain ⟨rfl, rfl⟩ : ys = [] ∧ y = x := by
      rw [eq_comm, List.append_eq_singleton_iff] at hxs
      simpa using hxs
    exact ⟨hlong, rfl⟩
  · rintro ⟨hlong, rfl⟩
    exact ⟨[], x, rfl, by simp [Readable], hlong, rfl⟩

/-- A number with others after it must not be too long. -/
theorem overlong_cons_iff (hne : xs ≠ []) :
    Overlong e (x :: xs) ↔ x.2.length ≤ Numeral.maxDigits ∧ Overlong e xs := by
  constructor
  · rintro ⟨_ | ⟨y', ys⟩, y, hxs, hread, hlong, rfl⟩
    · exact absurd (List.cons.inj hxs).2 hne
    · obtain ⟨rfl, rfl⟩ := List.cons.inj hxs
      obtain ⟨hshort, hread⟩ := List.forall_mem_cons.1 hread
      exact ⟨hshort, ys, y, rfl, hread, hlong, rfl⟩
  · rintro ⟨hshort, ys, y, rfl, hread, hlong, rfl⟩
    exact ⟨x :: ys, y, rfl, List.forall_mem_cons.2 ⟨hshort, hread⟩, hlong, rfl⟩

/-- A number that is not too long fails only with others after it. -/
theorem Overlong.exists_cons (h : Overlong e (x :: xs)) (hshort : x.2.length ≤ Numeral.maxDigits) :
    ∃ y ys, xs = y :: ys := by
  cases xs with
  | nil => exact absurd (overlong_singleton_iff.1 h).1 (Nat.not_lt.2 hshort)
  | cons y ys => exact ⟨y, ys, rfl⟩

/-! ## Adding up -/

/-- **A number fails to be read with what follows it just in case pairs of a sign and a number
follow up to one that is too long.** -/
theorem evaluate_number_eq_numeral_iff :
    ∀ {p : Position} {total : Int} {ds : List Char} {ts : List Term}, p ≠ .afterNumber →
    (evaluate expr p total (.number ds :: ts) = .error (.numeral e) ↔
      ∃ rest, continuation rest <+: ts ∧ Overlong e ((p.sign, ds) :: rest))
  | p, total, ds, ts, hp => by
    rw [evaluate_number hp]
    split
    next hlong =>
      constructor
      · rintro ⟨⟩
        exact ⟨[], List.nil_prefix, overlong_singleton_iff.2 ⟨hlong, rfl⟩⟩
      · rintro ⟨_ | ⟨y, ys⟩, -, h⟩
        · rw [(overlong_singleton_iff.1 h).2]
        · exact absurd ((overlong_cons_iff (List.cons_ne_nil y ys)).1 h).1 (Nat.not_le.2 hlong)
    next hshort =>
      rw [Nat.not_lt] at hshort
      have hmore {us : List Term} (hus : ∀ s ds' ts', us ≠ .sign s :: .number ds' :: ts') :
          ¬∃ rest, continuation rest <+: us ∧ Overlong e ((p.sign, ds) :: rest) := by
        rintro ⟨rest, ⟨ts', hrest⟩, h⟩
        obtain ⟨y, ys, rfl⟩ := h.exists_cons hshort
        exact hus _ _ _ hrest.symm
      match ts with
      | [] => exact iff_of_false (by simp [evaluate]) (hmore (by simp))
      | .number ds' :: ts => exact iff_of_false (by simp [evaluate]) (hmore (by simp))
      | [.sign s] | .sign s :: .sign s' :: ts =>
        exact iff_of_false (by simp [evaluate]) (hmore (by simp))
      | .sign s :: .number ds' :: ts =>
        rw [evaluate_sign (by simp), evaluate_number_eq_numeral_iff (by simp)]
        constructor
        · rintro ⟨rest, ⟨ts', rfl⟩, h⟩
          exact ⟨(s, ds') :: rest, ⟨ts', rfl⟩,
            (overlong_cons_iff (List.cons_ne_nil _ _)).2 ⟨hshort, h⟩⟩
        · rintro ⟨rest, ⟨ts', hrest⟩, h⟩
          obtain ⟨y, ys, rfl⟩ := h.exists_cons hshort
          cases hrest
          exact ⟨ys, ⟨ts', rfl⟩, ((overlong_cons_iff (List.cons_ne_nil _ _)).1 h).2⟩

/-- **Terms fail to be read just in case they begin with a sentence whose last number is too
long.** -/
theorem evaluate_eq_numeral_iff {ts : List Term} :
    evaluate expr .start 0 ts = .error (.numeral e) ↔
      ∃ S : Sentence, S.terms <+: ts ∧ Overlong e S.summands := by
  have hnone (h : ∀ S : Sentence, ¬S.terms <+: ts) :
      ¬∃ S : Sentence, S.terms <+: ts ∧ Overlong e S.summands := fun ⟨S, hS, _⟩ => h S hS
  match ts with
  | [] =>
    refine iff_of_false (by simp [evaluate]) (hnone ?_)
    rintro ⟨lead, first, rest⟩ ⟨ts', hS⟩
    cases lead <;> cases hS
  | .number ds :: ts =>
    rw [evaluate_number_eq_numeral_iff (by simp)]
    constructor
    · rintro ⟨rest, ⟨ts', rfl⟩, h⟩
      exact ⟨⟨none, ds, rest⟩, ⟨ts', rfl⟩, h⟩
    · rintro ⟨⟨lead, first, rest⟩, ⟨ts', hS⟩, h⟩
      cases lead <;> cases hS
      exact ⟨rest, ⟨ts', rfl⟩, h⟩
  | .sign s :: .number ds :: ts =>
    rw [evaluate_sign (by simp), evaluate_number_eq_numeral_iff (by simp)]
    constructor
    · rintro ⟨rest, ⟨ts', rfl⟩, h⟩
      exact ⟨⟨some s, ds, rest⟩, ⟨ts', rfl⟩, h⟩
    · rintro ⟨⟨lead, first, rest⟩, ⟨ts', hS⟩, h⟩
      cases lead <;> cases hS
      exact ⟨rest, ⟨ts', rfl⟩, h⟩
  | [.sign s] | .sign s :: .sign s' :: ts =>
    refine iff_of_false (by simp [evaluate]) (hnone ?_)
    rintro ⟨lead, first, rest⟩ ⟨ts', hS⟩
    cases lead <;> cases hS

/-! ## The size of a pool -/

/-- The text begins with a sum whose last number is too long to be read, and goes on with characters
of a sum. -/
def Chokes (e : NumeralError) (s : List Char) : Prop :=
  ∃ (S : Sentence) (ts : List Term), Spells s (S.terms ++ ts) ∧ Overlong e S.summands

theorem chokes_iff (expr : List Char) {s : List Char} :
    Chokes e s ↔
      (∀ c ∈ s, isSumChar c) ∧ evaluate expr .start 0 (terms s) = .error (.numeral e) := by
  rw [evaluate_eq_numeral_iff]
  constructor
  · rintro ⟨S, ts, hs, h⟩
    obtain ⟨hall, hterms⟩ := spells_iff.1 hs
    exact ⟨hall, S, ⟨ts, hterms.symm⟩, h⟩
  · rintro ⟨hall, S, ⟨ts, hterms⟩, h⟩
    exact ⟨S, ts, spells_iff.2 ⟨hall, hterms.symm⟩, h⟩

theorem chokes_congr {s s' : List Char} (h : words s = words s') : Chokes e s ↔ Chokes e s' :=
  exists_congr fun _ => exists_congr fun _ => and_congr_left' (spells_congr h)

theorem Chokes.isSumChar {s : List Char} (h : Chokes e s) : ∀ c ∈ s, isSumChar c :=
  ((chokes_iff s).1 h).1

/-- There is a number in it. -/
theorem Chokes.ne_nil {s : List Char} (h : Chokes e s) : s ≠ [] := by
  rintro rfl
  obtain ⟨⟨lead, first, rest⟩, ts, hs, -⟩ := h
  cases lead <;> cases (spells_iff.1 hs).2

/-- **A pool fails to be read just in case its text chokes.** -/
theorem size_eq_numeral_iff {text : List Char} :
    size text = .error (.numeral e) ↔ Chokes e (lower (strip text)) := by
  unfold size
  generalize lower (strip text) = expr
  dsimp only
  split
  next hchance =>
    subst hchance
    refine iff_of_false (by simp) fun h => ?_
    exact absurd (h.isSumChar 'c' (by decide)) (by decide)
  next =>
    split
    next hbad =>
      refine iff_of_false (by simp) fun h => ?_
      simp [h.ne_nil, List.all_eq_true.2 h.isSumChar] at hbad
    next hgood =>
      simp only [Bool.or_eq_true, Bool.not_eq_true', not_or, Bool.not_eq_false] at hgood
      rw [chokes_iff expr]
      exact (and_iff_right (List.all_eq_true.1 hgood.2)).symm

/-- The joined words of a pool are read as what they spell. -/
theorem size_joinWith_eq_numeral_iff {P : List (List Char)} (hP : ∀ w ∈ P, RollText.isPoolWord w)
    (hnb : ∀ w ∈ P, w ≠ [] ∧ ∀ c ∈ w, isBlank c = false) :
    size (joinWith [' '] P) = .error (.numeral e) ↔ Chokes e (joinWith [' '] P) := by
  rw [size_eq_numeral_iff]
  refine chokes_congr ?_
  rw [words_lower_strip, words_lower_joinWith hP hnb,
    words_joinWith (fun w hw => (hnb w hw).1) fun w hw => (hnb w hw).2]

/-! ## Requests -/

/-- **The refusal of too many dice fails just in case there are too many to be written.** -/
theorem RollText.tooManyDice_eq_numeral_iff {v limit : Int} (hlimit : 0 ≤ limit) (h : limit < v) :
    tooManyDice v limit = .numeral e ↔
      Nat.pow 10 Numeral.maxDigits ≤ v.natAbs ∧ e = .tooLargeToWrite := by
  have hlt : limit.natAbs < v.natAbs := by omega
  unfold tooManyDice
  rcases Nat.lt_or_ge v.natAbs (Nat.pow 10 Numeral.maxDigits) with hshort | hlong
  · -- the limit is the smaller number, so it is written too
    rw [Numeral.write_of_lt hshort, Numeral.write_of_lt (Nat.lt_trans hlt hshort)]
    exact iff_of_false (by simp) fun h => Nat.not_le.2 hshort h.1
  · rw [Numeral.write_eq_error_iff.2 ⟨hlong, rfl⟩, and_iff_right hlong]
    cases Numeral.write limit <;> exact ⟨fun h => (Fault.numeral.inj h).symm, fun h => h ▸ rfl⟩

theorem RollText.request_eq_numeral_iff {limit : Int} (hlimit : 0 ≤ limit) {t : RollText} :
    t.request limit = .error (.numeral e) ↔ (chance ∈ t.pool → t.pool = [chance]) ∧
      (size t.poolText = .error (.numeral e) ∨
        ∃ v, size t.poolText = .ok v ∧ limit < v ∧
          Nat.pow 10 Numeral.maxDigits ≤ v.natAbs ∧ e = .tooLargeToWrite) := by
  unfold RollText.request
  split
  next hmixed =>
    refine iff_of_false (by simp) fun ⟨halone, _⟩ => ?_
    simp only [Bool.and_eq_true, List.contains_iff_mem, bne_iff_ne] at hmixed
    exact hmixed.2 (halone hmixed.1)
  next hfine =>
    rw [and_iff_right (a := chance ∈ t.pool → t.pool = [chance]) (by simpa using hfine)]
    cases hsize : size t.poolText with
    | error e' => simp
    | ok v =>
      simp only [reduceCtorEq, false_or, Except.ok.injEq, exists_eq_left']
      split
      next hlarge =>
        rw [and_iff_right hlarge, Except.error.injEq, tooManyDice_eq_numeral_iff hlimit hlarge]
      next hsmall => exact iff_of_false (by simp) fun h => hsmall h.1

/-- The pool of a text cannot be read, or cannot be refused: before words for modifiers alone, its
words choke, or they come to a number that is above the limit and too long to be written. -/
def Outgrows (limit : Int) (e : NumeralError) (text : List Char) : Prop :=
  ∃ P F, words (lower text) = P ++ F ∧ (∀ w ∈ F, (Modifier.ofWord? w).isSome) ∧
    (Chokes e (joinWith [' '] P) ∨
      ∃ v, PoolComesTo P v ∧ limit < v ∧ Nat.pow 10 Numeral.maxDigits ≤ v.natAbs ∧
        e = .tooLargeToWrite)

/-- Words that choke are of digits and signs. -/
theorem Chokes.isSumChar_of_mem {P : List (List Char)}
    (hnb : ∀ w ∈ P, w ≠ [] ∧ ∀ c ∈ w, isBlank c = false) (h : Chokes e (joinWith [' '] P)) :
    ∀ w ∈ P, ∀ c ∈ w, Pool.isSumChar c := by
  have hall := forall_isSumChar_iff.1 h.isSumChar
  rwa [words_joinWith (fun w hw => (hnb w hw).1) fun w hw => (hnb w hw).2] at hall

/-- **A text fails for the length of a number just in case its pool outgrows what can be read and
written.** -/
theorem requestOf_eq_numeral_iff {limit : Int} (hlimit : 0 ≤ limit) {text : List Char} :
    requestOf limit text = .error (.numeral e) ↔ Outgrows limit e text := by
  constructor
  · intro h
    unfold requestOf at h
    split at h
    next => cases h
    next t ht =>
      obtain ⟨hws, -, hP, hF⟩ := RollText.split_eq_ok_iff.1 ht
      have hnb : ∀ w ∈ t.pool, w ≠ [] ∧ ∀ c ∈ w, isBlank c = false := fun w hw =>
        mem_words (hws ▸ List.mem_append_left _ hw)
      refine ⟨t.pool, t.flags, hws, hF, ?_⟩
      refine ((RollText.request_eq_numeral_iff hlimit).1 h).2.imp
        (size_joinWith_eq_numeral_iff hP hnb).1 ?_
      rintro ⟨v, hv, hlarge⟩
      exact ⟨v, (size_joinWith_eq_ok_iff hP hnb).1 hv, hlarge⟩
  · rintro ⟨P, F, hws, hF, h⟩
    have hnb : ∀ w ∈ P, w ≠ [] ∧ ∀ c ∈ w, isBlank c = false := fun w hw =>
      mem_words (hws ▸ List.mem_append_left _ hw)
    have hpool : P ≠ [] ∧ (∀ w ∈ P, RollText.isPoolWord w) ∧ (chance ∈ P → P = [chance]) := by
      rcases h with hchokes | ⟨v, hv, -⟩
      · have hsum := hchokes.isSumChar_of_mem hnb
        refine ⟨?_, fun w hw => isPoolWord_iff.2 (.inr ⟨(hnb w hw).1, hsum w hw⟩), fun hmem => ?_⟩
        · rintro rfl
          exact hchokes.ne_nil rfl
        · exact absurd (hsum chance hmem 'c' (by decide)) (by decide)
      · exact ⟨hv.ne_nil, fun w hw => hv.isPoolWord hw (hnb w hw).1, hv.eq_of_mem⟩
    obtain ⟨hne, hP, halone⟩ := hpool
    have ht : RollText.split text = .ok ⟨P, F⟩ := RollText.split_eq_ok_iff.2 ⟨hws, hne, hP, hF⟩
    rw [requestOf, ht]
    refine (RollText.request_eq_numeral_iff hlimit).2 ⟨halone, h.imp
      (size_joinWith_eq_numeral_iff hP hnb).2 ?_⟩
    rintro ⟨v, hv, hlarge⟩
    exact ⟨v, (size_joinWith_eq_ok_iff hP hnb).2 hv, hlarge⟩

/-! ## Nines -/

theorem digitsValue_replicate_nine (n : Nat) :
    digitsValue (List.replicate n '9') + 1 = Nat.pow 10 n := by
  induction n with
  | zero => rfl
  | succ n ih =>
    have hnine : digitValue? '9' = some 9 := by decide +kernel
    have hpow : Nat.pow 10 (n + 1) = Nat.pow 10 n * 10 := rfl
    rw [List.replicate_succ', digitsValue_append_singleton, hnine, Option.getD_some, hpow, ← ih]
    omega

/-- A word of digits and signs is a text of one word. -/
theorem words_lower_eq_singleton {w : List Char} (hne : w ≠ [])
    (hw : ∀ c ∈ w, isDigit c ∨ c = '+' ∨ c = '-') : words (lower w) = [w] := by
  have hsum : ∀ c ∈ w, isSumChar c := fun c hc => by
    simpa [isSumChar, or_assoc] using (hw c hc).imp_right fun h => h.imp_right .inl
  rw [lower_of_isPoolWord (isPoolWord_iff.2 (.inr ⟨hne, hsum⟩))]
  refine words_eq_singleton hne fun c hc => ?_
  rcases hw c hc with hd | rfl | rfl
  · exact isBlank_eq_false_of_isDigit hd
  · decide
  · decide

theorem isDigit_of_mem_nines {n : Nat} : ∀ c ∈ List.replicate n '9', isDigit c := fun _ hc =>
  List.eq_of_mem_replicate hc ▸ (by decide +kernel)

/-- **More nines than can be read are not read**, … -/
theorem outgrows_nines {n : Nat} (h : Numeral.maxDigits < n) (limit : Int) :
    Outgrows limit (.tooManyDigits n) (List.replicate n '9') := by
  have hne : List.replicate n '9' ≠ [] := by
    rw [ne_eq, List.replicate_eq_nil_iff]
    omega
  have hwords := words_lower_eq_singleton hne fun c hc => .inl (isDigit_of_mem_nines c hc)
  have hspells : Spells (List.replicate n '9') [.number (List.replicate n '9')] := by
    simpa using Spells.number hne isDigit_of_mem_nines rfl .nil
  have hlength := List.length_replicate (n := n) (a := '9')
  refine ⟨[_], [], by rw [hwords, List.append_nil], by simp, .inl ?_⟩
  rw [joinWith_singleton]
  exact ⟨⟨none, _, []⟩, [], hspells, overlong_singleton_iff.2 ⟨by rwa [hlength], by rw [hlength]⟩⟩

theorem comesTo_nines_plus_one {n : Nat} (hpos : 0 < n) (hn : n ≤ Numeral.maxDigits) :
    ComesTo (List.replicate n '9' ++ ['+', '1']) (Nat.pow 10 n : Nat) := by
  have hne : List.replicate n '9' ≠ [] := by
    rw [ne_eq, List.replicate_eq_nil_iff]
    omega
  have hplus : Spells ['+', '1'] [.sign .plus, .number ['1']] :=
    spells_iff.2 ⟨List.all_eq_true.1 (by decide +kernel), by decide +kernel⟩
  refine ⟨⟨none, List.replicate n '9', [(.plus, ['1'])]⟩,
    .number hne isDigit_of_mem_nines (by decide +kernel) hplus,
    List.forall_mem_cons.2 ⟨?_, List.forall_mem_singleton.2 (by decide)⟩, ?_⟩
  · rwa [List.length_replicate]
  · have hone : digitsValue ['1'] = 1 := by decide +kernel
    simp only [Sentence.value, Sentence.summands, sum_cons, sum_nil, Sign.apply, Option.getD_none,
      hone, ← digitsValue_replicate_nine]
    omega

/-- … and one more than the nines that can be read is not written. -/
theorem outgrows_nines_plus_one {limit : Int} (h : limit < (Nat.pow 10 Numeral.maxDigits : Nat)) :
    Outgrows limit .tooLargeToWrite (List.replicate Numeral.maxDigits '9' ++ ['+', '1']) := by
  have hcomes := comesTo_nines_plus_one (n := Numeral.maxDigits) (by decide) (Nat.le_refl _)
  have hchars : ∀ c ∈ List.replicate Numeral.maxDigits '9' ++ ['+', '1'],
      isDigit c ∨ c = '+' ∨ c = '-' := by
    refine List.forall_mem_append.2 ⟨fun c hc => .inl (isDigit_of_mem_nines c hc), ?_⟩
    simp only [List.forall_mem_cons, List.not_mem_nil, false_implies, implies_true, and_true]
    exact ⟨by decide, .inl (by decide +kernel)⟩
  have hwords := words_lower_eq_singleton (by simp) hchars
  rw [← joinWith_singleton [' '] (_ ++ _)] at hcomes
  exact ⟨[_], [], by rw [hwords, List.append_nil], by simp, .inr ⟨_,
    .inr ⟨List.forall_mem_singleton.2 hchars, hcomes⟩, h, (Int.natAbs_natCast _).ge, rfl⟩⟩

end DicePool.Pool
