import DicePool.Pool.Sum
import DicePool.Proofs.Text.Words

/-!
# Proofs/Pool/Grammar — what a sum may be, and what it comes to

A sum is a `Sentence`: an optional sign, a number, and more numbers with a sign before each. A text
`Spells` the terms of a sentence by signs and longest runs of digits, with blanks anywhere between
them. Main statement `size_decides_grammar`: a text gives a pool just in case it is the word for a
chance die or spells a sentence whose numbers are not too long, and the pool is what the sentence
comes to.

Reading goes through `terms`, which splits, and `evaluate`, which walks over the terms and remembers
what came last; each is compared with its side of the grammar alone, in `spells_iff` and
`evaluate_eq_ok_iff`. Blanks matter only where they end a run of digits, so a sum is read word by
word: `comesTo_congr`.
-/

namespace DicePool.Pool

open Text

/-! ## Characters of a sum -/

theorem Sign.ofChar?_eq_none_iff {c : Char} : Sign.ofChar? c = none ↔ c ≠ '+' ∧ c ≠ '-' := by
  unfold Sign.ofChar?
  split
  · simp [*]
  · split <;> simp [*]

/-- A digit is no sign, … -/
theorem Sign.ofChar?_of_isDigit {c : Char} (h : isDigit c) : Sign.ofChar? c = none := by
  refine Sign.ofChar?_eq_none_iff.2 ⟨?_, ?_⟩ <;> rintro rfl <;> exact absurd h (by decide)

/-- … and neither is a blank. -/
theorem Sign.ofChar?_of_isBlank {c : Char} (h : isBlank c) : Sign.ofChar? c = none := by
  refine Sign.ofChar?_eq_none_iff.2 ⟨?_, ?_⟩ <;> rintro rfl <;> exact absurd h (by decide)

theorem isDigit_eq_false_of_isBlank {c : Char} (h : isBlank c) : isDigit c = false := by
  rw [← Bool.not_eq_true]
  intro hd
  simp [isBlank_eq_false_of_isDigit hd] at h

/-- **A character of a sum is a sign, a digit or a blank.** -/
theorem isSumChar_iff {c : Char} :
    isSumChar c ↔ (∃ s, Sign.ofChar? c = some s) ∨ isDigit c ∨ isBlank c := by
  rw [← Option.isSome_iff_exists, ← Option.ne_none_iff_isSome, ne_eq, Sign.ofChar?_eq_none_iff]
  simp only [isSumChar, Bool.or_eq_true, beq_iff_eq]
  tauto

/-! ## Spelling -/

/-- A text spells terms: each number by a longest run of digits, each sign by itself, and blanks
between them for nothing. -/
inductive Spells : List Char → List Term → Prop
  | nil : Spells [] []
  | blank {c : Char} {s : List Char} {ts : List Term} :
    isBlank c → Spells s ts → Spells (c :: s) ts
  | sign {c : Char} {p : Sign} {s : List Char} {ts : List Term} :
    Sign.ofChar? c = some p → Spells s ts → Spells (c :: s) (.sign p :: ts)
  | number {ds s : List Char} {ts : List Term} :
    ds ≠ [] → (∀ c ∈ ds, isDigit c) → s.head?.any isDigit = false → Spells s ts →
      Spells (ds ++ s) (.number ds :: ts)

theorem exists_cons_of_head?_any {s : List Char} (h : s.head?.any isDigit) :
    ∃ d t, s = d :: t ∧ isDigit d := by
  cases s with
  | nil => simp at h
  | cons d t => exact ⟨d, t, rfl, by simpa using h⟩

theorem terms_cons_of_isDigit {c : Char} (h : isDigit c) (s : List Char) :
    terms (c :: s) =
      if s.head?.any isDigit then consDigit c (terms s) else .number [c] :: terms s := by
  rw [terms, Sign.ofChar?_of_isDigit h]
  simp [h]

theorem terms_cons_of_none {c : Char} (hp : Sign.ofChar? c = none) (hd : isDigit c = false)
    (s : List Char) : terms (c :: s) = terms s := by
  rw [terms, hp]
  simp [hd]

theorem terms_cons_of_isBlank {b : Char} (h : isBlank b) (s : List Char) :
    terms (b :: s) = terms s :=
  terms_cons_of_none (Sign.ofChar?_of_isBlank h) (isDigit_eq_false_of_isBlank h) s

/-- **A longest run of digits is one number.** -/
theorem terms_append_of_isDigit {ds s : List Char} (hne : ds ≠ []) (hds : ∀ c ∈ ds, isDigit c)
    (hs : s.head?.any isDigit = false) : terms (ds ++ s) = .number ds :: terms s := by
  induction ds with
  | nil => exact absurd rfl hne
  | cons d ds ih =>
    rw [List.forall_mem_cons] at hds
    rw [List.cons_append, terms_cons_of_isDigit hds.1]
    cases ds with
    | nil =>
      rw [List.nil_append, hs]
      rfl
    | cons e ds =>
      have hgoes : ((e :: ds) ++ s).head?.any isDigit := by simpa using hds.2 e (by simp)
      rw [if_pos hgoes, ih (List.cons_ne_nil e ds) hds.2]
      rfl

/-- One more digit before a number is one more digit of that number. -/
theorem Spells.consDigit {c d : Char} {s : List Char} {ts : List Term} (hc : isDigit c)
    (hd : isDigit d) (h : Spells (d :: s) ts) : Spells (c :: d :: s) (consDigit c ts) := by
  generalize hds : d :: s = l at h
  cases h with
  | nil => cases hds
  | blank hb _ =>
    cases hds
    simp [isBlank_eq_false_of_isDigit hd] at hb
  | sign hp _ =>
    cases hds
    simp [Sign.ofChar?_of_isDigit hd] at hp
  | number hne hds' hend htail =>
    exact .number (List.cons_ne_nil c _) (List.forall_mem_cons.2 ⟨hc, hds'⟩) hend htail

/-- **A text spells what `terms` makes of it** — as long as it has characters of a sum only, since
`terms` skips all others. -/
theorem spells_iff {s : List Char} {ts : List Term} :
    Spells s ts ↔ (∀ c ∈ s, isSumChar c) ∧ terms s = ts := by
  constructor
  · intro h
    induction h with
    | nil => simp [terms]
    | blank hb _ ih =>
      rw [List.forall_mem_cons, terms_cons_of_isBlank hb]
      exact ⟨⟨isSumChar_iff.2 (.inr (.inr hb)), ih.1⟩, ih.2⟩
    | sign hp _ ih =>
      rw [List.forall_mem_cons, terms, hp]
      exact ⟨⟨isSumChar_iff.2 (.inl ⟨_, hp⟩), ih.1⟩, congrArg _ ih.2⟩
    | number hne hds hend _ ih =>
      rw [List.forall_mem_append, terms_append_of_isDigit hne hds hend]
      exact ⟨⟨fun c hc => isSumChar_iff.2 (.inr (.inl (hds c hc))), ih.1⟩, congrArg _ ih.2⟩
  · rintro ⟨hall, rfl⟩
    induction s with
    | nil => exact .nil
    | cons c s ih =>
      rw [List.forall_mem_cons] at hall
      have hs := ih hall.2
      rcases isSumChar_iff.1 hall.1 with ⟨p, hp⟩ | hd | hb
      · rw [terms, hp]
        exact .sign hp hs
      · rw [terms_cons_of_isDigit hd]
        split
        next hgoes =>
          obtain ⟨d, t, rfl, hd'⟩ := exists_cons_of_head?_any hgoes
          exact hs.consDigit hd hd'
        next hend =>
          exact .number (List.cons_ne_nil c []) (by simpa using hd) (Bool.eq_false_iff.2 hend) hs
      · rw [terms_cons_of_isBlank hb]
        exact .blank hb hs

/-- The digits of a number stand side by side in the text. -/
theorem Spells.isInfix_of_mem {s : List Char} {ts : List Term} (h : Spells s ts) {ds : List Char}
    (hds : .number ds ∈ ts) : ds <:+: s ∧ ∀ c ∈ ds, isDigit c := by
  induction h with
  | nil => simp at hds
  | blank _ _ ih => exact ⟨(ih hds).1.trans (List.suffix_cons _ _).isInfix, (ih hds).2⟩
  | sign _ _ ih =>
    have hin := ih (by simpa using hds)
    exact ⟨hin.1.trans (List.suffix_cons _ _).isInfix, hin.2⟩
  | @number ds' s ts hne hds' _ _ ih =>
    rcases List.mem_cons.1 hds with heq | hin
    · cases heq
      exact ⟨(List.prefix_append _ _).isInfix, hds'⟩
    · exact ⟨(ih hin).1.trans (List.suffix_append _ _).isInfix, (ih hin).2⟩

/-! ## Sentences -/

/-- A sum: a number with a sign in front of it or none, and numbers with a sign in front of each. -/
structure Sentence where
  /-- The sign in front of the first number. -/
  lead : Option Sign
  /-- The digits of the first number. -/
  first : List Char
  /-- The other numbers, each after its sign. -/
  rest : List (Sign × List Char)

namespace Sentence

/-- Numbers, each after its sign. -/
def continuation (rest : List (Sign × List Char)) : List Term :=
  rest.flatMap fun x => [.sign x.1, .number x.2]

/-- What numbers come to with their signs. -/
def sum (xs : List (Sign × List Char)) : Int :=
  xs.foldr (fun x n => x.1.apply (digitsValue x.2) + n) 0

@[simp] theorem sum_nil : sum [] = 0 := rfl

@[simp] theorem sum_cons (x : Sign × List Char) (xs : List (Sign × List Char)) :
    sum (x :: xs) = x.1.apply (digitsValue x.2) + sum xs := rfl

/-- The terms of the sentence. -/
def terms (S : Sentence) : List Term :=
  (S.lead.map Term.sign).toList ++ .number S.first :: continuation S.rest

/-- The numbers with their signs; the first is added unless the sign in front of it says no. -/
def summands (S : Sentence) : List (Sign × List Char) :=
  (S.lead.getD .plus, S.first) :: S.rest

/-- What the sentence comes to. -/
def value (S : Sentence) : Int :=
  sum S.summands

end Sentence

open Sentence

/-- No number is too long to be read. -/
def Readable (xs : List (Sign × List Char)) : Prop :=
  ∀ x ∈ xs, x.2.length ≤ Numeral.maxDigits

instance (xs : List (Sign × List Char)) : Decidable (Readable xs) :=
  inferInstanceAs (Decidable (∀ x ∈ xs, x.2.length ≤ Numeral.maxDigits))

/-! ## Adding up

What came last decides what may come next, so the terms are taken two at a time: a sign is read
together with the number after it, and only the first number may stand without one. -/

variable {expr : List Char} {total v : Int} {ts : List Term}

/-- A number that does not stand right after another is read and counted, … -/
theorem evaluate_number {p : Position} (hp : p ≠ .afterNumber) (ds : List Char) :
    evaluate expr p total (.number ds :: ts) =
      if Numeral.maxDigits < ds.length then .error (.numeral (.tooManyDigits ds.length))
      else evaluate expr .afterNumber (total + p.sign.apply (digitsValue ds)) ts := by
  split
  next h =>
    have hread : Numeral.ofDigits ds = .error (.tooManyDigits ds.length) := if_pos h
    cases p <;> simp_all [evaluate]
  next h =>
    have hread : Numeral.ofDigits ds = .ok (digitsValue ds) := if_neg h
    cases p <;> simp_all [evaluate]

/-- … and a sign that does not stand right after another is kept for the number after it. -/
theorem evaluate_sign {p : Position} (hp : ∀ s, p ≠ .afterSign s) (s : Sign) :
    evaluate expr p total (.sign s :: ts) = evaluate expr (.afterSign s) total ts := by
  cases p <;> simp_all [evaluate]

/-- A sign without a number after it is refused. -/
theorem evaluate_sign_ne_ok {p : Position} (hp : ∀ s, p ≠ .afterSign s) {s : Sign}
    (h : ∀ ds us, ts ≠ .number ds :: us) : evaluate expr p total (.sign s :: ts) ≠ .ok v := by
  rw [evaluate_sign hp]
  match ts with
  | [] => simp [evaluate]
  | .sign _ :: _ => simp [evaluate]
  | .number ds :: us => exact absurd rfl (h ds us)

theorem sign_cons_ne_continuation {s : Sign} (h : ∀ ds us, ts ≠ .number ds :: us)
    (rest : List (Sign × List Char)) : .sign s :: ts ≠ continuation rest := by
  intro heq
  cases rest <;> cases heq
  exact h _ _ rfl

theorem sign_cons_ne_terms {s : Sign} (h : ∀ ds us, ts ≠ .number ds :: us) (S : Sentence) :
    .sign s :: ts ≠ S.terms := by
  obtain ⟨lead, first, rest⟩ := S
  intro heq
  cases lead <;> cases heq
  exact h _ _ rfl

/-- **A number is read with what follows it just in case pairs of a sign and a number follow.** -/
theorem evaluate_number_eq_ok_iff :
    ∀ {p : Position} {total : Int} {ds : List Char} {ts : List Term}, p ≠ .afterNumber →
    (evaluate expr p total (.number ds :: ts) = .ok v ↔
      ∃ rest, ts = continuation rest ∧ Readable ((p.sign, ds) :: rest) ∧
        total + sum ((p.sign, ds) :: rest) = v)
  | p, total, ds, ts, hp => by
    rw [evaluate_number hp]
    split
    next hlong =>
      refine iff_of_false (by simp) ?_
      rintro ⟨rest, -, hread, -⟩
      exact absurd (hread _ (List.mem_cons_self ..)) (Nat.not_le.2 hlong)
    next hshort =>
      match ts with
      | [] =>
        rw [evaluate]
        constructor
        · rintro ⟨rfl⟩
          exact ⟨[], rfl, by simpa [Readable] using hshort, by simp⟩
        · rintro ⟨rest, hts, -, rfl⟩
          cases rest <;> cases hts
          simp
      | .number ds' :: ts =>
        rw [evaluate]
        refine iff_of_false (by simp) ?_
        rintro ⟨rest, hts, -⟩
        cases rest <;> cases hts
      | [.sign s] | .sign s :: .sign s' :: ts =>
        exact iff_of_false (evaluate_sign_ne_ok (by simp) (by simp)) fun ⟨rest, hts, _⟩ =>
          sign_cons_ne_continuation (by simp) rest hts
      | .sign s :: .number ds' :: ts =>
        rw [evaluate_sign (by simp), evaluate_number_eq_ok_iff (by simp)]
        constructor
        · rintro ⟨rest, rfl, hread, rfl⟩
          exact ⟨(s, ds') :: rest, rfl, List.forall_mem_cons.2 ⟨Nat.not_lt.1 hshort, hread⟩,
            by simp [Position.sign, Int.add_assoc]⟩
        · rintro ⟨rest, hts, hread, rfl⟩
          cases rest <;> cases hts
          exact ⟨_, rfl, (List.forall_mem_cons.1 hread).2, by simp [Position.sign, Int.add_assoc]⟩

/-- **Terms add up just in case they are a sentence.** -/
theorem evaluate_eq_ok_iff :
    evaluate expr .start 0 ts = .ok v ↔
      ∃ S : Sentence, ts = S.terms ∧ Readable S.summands ∧ S.value = v := by
  match ts with
  | [] =>
    refine iff_of_false (by simp [evaluate]) ?_
    rintro ⟨⟨lead, first, rest⟩, hts, -⟩
    cases lead <;> cases hts
  | .number ds :: ts =>
    rw [evaluate_number_eq_ok_iff (by simp)]
    constructor
    · rintro ⟨rest, rfl, hread, rfl⟩
      exact ⟨⟨none, ds, rest⟩, rfl, hread, (Int.zero_add _).symm⟩
    · rintro ⟨⟨lead, first, rest⟩, hts, hread, rfl⟩
      cases lead <;> cases hts
      exact ⟨rest, rfl, hread, Int.zero_add _⟩
  | .sign s :: .number ds :: ts =>
    rw [evaluate_sign (by simp), evaluate_number_eq_ok_iff (by simp)]
    constructor
    · rintro ⟨rest, rfl, hread, rfl⟩
      exact ⟨⟨some s, ds, rest⟩, rfl, hread, (Int.zero_add _).symm⟩
    · rintro ⟨⟨lead, first, rest⟩, hts, hread, rfl⟩
      cases lead <;> cases hts
      exact ⟨rest, rfl, hread, Int.zero_add _⟩
  | [.sign s] | .sign s :: .sign s' :: ts =>
    exact iff_of_false (evaluate_sign_ne_ok (by simp) (by simp)) fun ⟨S, hts, _⟩ =>
      sign_cons_ne_terms (by simp) S hts

/-- **Nothing but a number that is too long is refused for its length.** -/
theorem exists_of_evaluate_eq_numeral {p : Position} {e : NumeralError}
    (h : evaluate expr p total ts = .error (.numeral e)) :
    ∃ ds, .number ds ∈ ts ∧ Numeral.maxDigits < ds.length := by
  induction ts generalizing p total with
  | nil => cases p <;> simp [evaluate] at h
  | cons t ts ih =>
    cases t with
    | sign s =>
      by_cases hp : ∃ s', p = .afterSign s'
      · obtain ⟨s', rfl⟩ := hp
        simp [evaluate] at h
      · rw [evaluate_sign (not_exists.1 hp)] at h
        obtain ⟨ds, hds, hlong⟩ := ih h
        exact ⟨ds, List.mem_cons_of_mem _ hds, hlong⟩
    | number ds =>
      by_cases hp : p = .afterNumber
      · simp [hp, evaluate] at h
      · rw [evaluate_number hp] at h
        split at h
        next hlong => exact ⟨ds, List.mem_cons_self .., hlong⟩
        next =>
          obtain ⟨ds', hds, hlong⟩ := ih h
          exact ⟨ds', List.mem_cons_of_mem _ hds, hlong⟩

/-! ## Sums read word by word -/

/-- The text is a sum that comes to the number. -/
def ComesTo (s : List Char) (v : Int) : Prop :=
  ∃ S : Sentence, Spells s S.terms ∧ Readable S.summands ∧ S.value = v

theorem ComesTo.isSumChar {s : List Char} {v : Int} (h : ComesTo s v) : ∀ c ∈ s, isSumChar c :=
  let ⟨_, hs, _⟩ := h
  (spells_iff.1 hs).1

/-- A sum has a character. -/
theorem ComesTo.ne_nil {s : List Char} {v : Int} (h : ComesTo s v) : s ≠ [] := by
  rintro rfl
  obtain ⟨⟨lead, first, rest⟩, hs, -⟩ := h
  cases lead <;> cases (spells_iff.1 hs).2

theorem comesTo_iff {expr : List Char} (hall : ∀ c ∈ expr, isSumChar c) {v : Int} :
    ComesTo expr v ↔ evaluate expr .start 0 (terms expr) = .ok v := by
  rw [evaluate_eq_ok_iff]
  exact exists_congr fun S => and_congr_left' (spells_iff.trans (and_iff_right hall))

/-- One more digit does not look past the first term. -/
theorem consDigit_append (c : Char) {ts : List Term} (hne : ts ≠ []) (us : List Term) :
    consDigit c (ts ++ us) = consDigit c ts ++ us := by
  obtain ⟨t, ts, rfl⟩ := List.exists_cons_of_ne_nil hne
  cases t <;> rfl

theorem terms_ne_nil_of_isDigit {c : Char} (h : isDigit c) (s : List Char) :
    terms (c :: s) ≠ [] := by
  rw [terms_cons_of_isDigit h]
  split
  · unfold consDigit
    split <;> exact List.cons_ne_nil _ _
  · exact List.cons_ne_nil _ _

/-- **A blank parts the terms of a sum.** -/
theorem terms_append_blank (s : List Char) {b : Char} (hb : isBlank b) (t : List Char) :
    terms (s ++ b :: t) = terms s ++ terms t := by
  induction s with
  | nil => rw [List.nil_append, terms_cons_of_isBlank hb, terms, List.nil_append]
  | cons c s ih =>
    rw [List.cons_append]
    cases hp : Sign.ofChar? c with
    | some p => rw [terms, terms, hp, ih, List.cons_append]
    | none =>
      cases hd : isDigit c with
      | false => rw [terms_cons_of_none hp hd, terms_cons_of_none hp hd, ih]
      | true =>
        -- the blank is no digit, so the run of digits ends where it did
        have hhead : (s ++ b :: t).head?.any isDigit = s.head?.any isDigit := by
          cases s <;> simp [isDigit_eq_false_of_isBlank hb]
        rw [terms_cons_of_isDigit hd, terms_cons_of_isDigit hd, hhead, ih]
        split
        next hgoes =>
          obtain ⟨d, s', rfl, hd'⟩ := exists_cons_of_head?_any hgoes
          exact consDigit_append c (terms_ne_nil_of_isDigit hd' s') _
        next => rw [List.cons_append]

theorem terms_eq_flatMap_words (s : List Char) : terms s = (words s).flatMap terms := by
  have hword {w : List Char} (hw : ∀ c ∈ w, isBlank c = false) :
      terms w = (words w).flatMap terms := by
    rcases eq_or_ne w [] with rfl | hne
    · rfl
    · rw [words_eq_singleton hne hw, List.flatMap_singleton]
  induction s using induction_at_blanks with
  | word w hw => exact hword hw
  | blank w b t hw hb ih =>
    rw [terms_append_blank w hb, words_append_blank w hb, List.flatMap_append, ← hword hw, ← ih]

theorem forall_isSumChar_iff {s : List Char} :
    (∀ c ∈ s, isSumChar c) ↔ ∀ w ∈ words s, ∀ c ∈ w, isSumChar c := by
  constructor
  · exact fun h w hw c hc => h c (exists_mem_words_iff.1 ⟨w, hw, hc⟩).1
  · intro h c hc
    cases hb : isBlank c with
    | true => exact isSumChar_iff.2 (.inr (.inr hb))
    | false =>
      obtain ⟨w, hw, hcw⟩ := exists_mem_words_iff.2 ⟨hc, hb⟩
      exact h w hw c hcw

/-- **Texts of the same words spell the same terms.** -/
theorem spells_congr {s s' : List Char} (h : words s = words s') {ts : List Term} :
    Spells s ts ↔ Spells s' ts := by
  rw [spells_iff, spells_iff, forall_isSumChar_iff, terms_eq_flatMap_words s, h,
    ← forall_isSumChar_iff, ← terms_eq_flatMap_words]

/-- Texts of the same words come to the same. -/
theorem comesTo_congr {s s' : List Char} (h : words s = words s') {v : Int} :
    ComesTo s v ↔ ComesTo s' v :=
  exists_congr fun _ => and_congr_left' (spells_congr h)

/-! ## The size of a pool -/

/-- The word for a chance die is no sum. -/
theorem not_comesTo_chance (v : Int) : ¬ComesTo chance v := fun h =>
  absurd (h.isSumChar 'c' (by decide)) (by decide)

/-- A text gives a pool: trimmed and in lower case it is the word for a chance die, which is a pool
of none, or a sum that comes to the pool. -/
def Gives (text : List Char) (v : Int) : Prop :=
  lower (strip text) = chance ∧ v = 0 ∨ ComesTo (lower (strip text)) v

/-- **The pool that is read is the one the text gives.** -/
theorem size_eq_ok_iff {text : List Char} {v : Int} : size text = .ok v ↔ Gives text v := by
  unfold size Gives
  generalize lower (strip text) = expr
  dsimp only
  split
  next hchance =>
    subst hchance
    simp [not_comesTo_chance, eq_comm]
  next hchance =>
    simp only [hchance, false_and, false_or]
    split
    next hbad =>
      refine iff_of_false (by simp) fun h => ?_
      simp [h.ne_nil, List.all_eq_true.2 h.isSumChar] at hbad
    next hgood =>
      simp only [Bool.or_eq_true, Bool.not_eq_true', not_or, Bool.not_eq_false] at hgood
      exact (comesTo_iff (List.all_eq_true.1 hgood.2)).symm

/-- **A text without a run of digits that is too long is refused by the rules of the notation.** -/
theorem exists_refused_of_size_eq_error {text : List Char} {e : Fault}
    (hruns : ∀ run, run <:+: lower (strip text) → (∀ c ∈ run, isDigit c) →
      run.length ≤ Numeral.maxDigits)
    (h : size text = .error e) : ∃ r, e = .refused r := by
  unfold size at h
  generalize lower (strip text) = expr at h hruns
  dsimp only at h
  split at h
  next => cases h
  split at h
  next => exact ⟨_, (Except.error.inj h).symm⟩
  next hgood =>
    cases e with
    | refused r => exact ⟨r, rfl⟩
    | numeral e =>
      simp only [Bool.or_eq_true, Bool.not_eq_true', not_or, Bool.not_eq_false] at hgood
      obtain ⟨ds, hds, hlong⟩ := exists_of_evaluate_eq_numeral h
      obtain ⟨hin, hdigits⟩ :=
        (spells_iff.2 ⟨List.all_eq_true.1 hgood.2, rfl⟩).isInfix_of_mem hds
      exact absurd (hruns ds hin hdigits) (Nat.not_le.2 hlong)

/-- **The size of a pool is decided by the grammar**: a text that gives a pool is read as that pool,
and any other text is refused — by the rules of the notation unless it has a run of digits that is
too long. -/
theorem size_decides_grammar (text : List Char) :
    (∀ v, size text = .ok v ↔ Gives text v) ∧
      ((∀ v, ¬Gives text v) → ∃ e, size text = .error e ∧
        ((∀ run, run <:+: lower (strip text) → (∀ c ∈ run, isDigit c) →
          run.length ≤ Numeral.maxDigits) → ∃ r, e = .refused r)) := by
  refine ⟨fun v => size_eq_ok_iff, fun hnone => ?_⟩
  cases h : size text with
  | ok v => exact absurd (size_eq_ok_iff.1 h) (hnone v)
  | error e => exact ⟨e, rfl, fun hruns => exists_refused_of_size_eq_error hruns h⟩

/-- Digits of two scripts and blanks of three kinds make one sum; two numbers without a sign between
them make none. -/
theorem size_decides_grammar_mixed_scripts :
    size "\t-٣+ 12\u3000- １\n".toList = .ok 8 ∧ ∃ r, size "3 4".toList = .error (.refused r) := by
  constructor
  · refine ((size_decides_grammar _).1 8).2 (.inr ⟨⟨some .minus, ['٣'],
      [(.plus, ['1', '2']), (.minus, ['１'])]⟩, spells_iff.2 ⟨List.all_eq_true.1 ?_, ?_⟩, ?_, ?_⟩)
    all_goals decide +kernel
  · have hthree : lower (strip "3 4".toList) = ['3', ' ', '4'] := by decide +kernel
    have hmissing : evaluate ['3', ' ', '4'] .start 0 (terms ['3', ' ', '4']) =
        .error (.refused (.missingSign ['3', ' ', '4'])) := by decide +kernel
    have hnone : ∀ v, ¬Gives "3 4".toList v := by
      rintro v (⟨hchance, -⟩ | hsum)
      · rw [hthree] at hchance
        exact absurd hchance (by decide)
      · rw [hthree, comesTo_iff (List.all_eq_true.1 (by decide)), hmissing] at hsum
        cases hsum
    obtain ⟨e, he, hruns⟩ := (size_decides_grammar "3 4".toList).2 hnone
    obtain ⟨r, rfl⟩ := hruns fun run hin _ =>
      Nat.le_trans (hthree ▸ hin).length_le (by decide)
    exact ⟨r, he⟩

end DicePool.Pool
