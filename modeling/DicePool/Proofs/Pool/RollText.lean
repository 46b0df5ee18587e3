import DicePool.Pool.RollText
import DicePool.Proofs.Pool.Grammar

/-!
# Proofs/Pool/RollText — which texts ask for a roll, and what they ask for

The text of a roll is cut into words twice: once to sort the words into pool and modifiers, and once
more after the words of the pool are joined again. Main statement `requestOf_decides_grammar`: both
together accept the words of one sum, or the word for a chance die alone, and after them any words
for modifiers.

`split_eq_ok_iff` is the first pass, and needs that no word of a pool names a modifier; the second
pass reads the same sum that a text without modifiers would be read as (`gives_joinWith_iff`), since
a sum is read word by word.
-/

namespace DicePool

/-! ## Modifiers that are set -/

namespace Modifiers

/-- Whether the modifier is set; exploding on ten is not kept, since it is what dice do anyway. -/
def isSet (m : Modifiers) : Modifier → Bool
  | .rote => m.rote
  | .nineAgain => m.nineAgain
  | .eightAgain => m.eightAgain
  | .tenAgain => false
  | .noExplode => m.noExplode

/-- Modifiers are what they set. -/
theorem eq_of_isSet {a b : Modifiers} (h : ∀ m, a.isSet m = b.isSet m) : a = b := by
  obtain ⟨_, _, _, _⟩ := a
  obtain ⟨_, _, _, _⟩ := b
  simp only [mk.injEq]
  exact ⟨h .rote, h .nineAgain, h .eightAgain, h .noExplode⟩

theorem isSet_union (a b : Modifiers) (m : Modifier) :
    (a.union b).isSet m ↔ a.isSet m ∨ b.isSet m := by
  cases m <;> simp [union, isSet]

theorem isSet_insert (s : Modifiers) (a m : Modifier) :
    (s.insert a).isSet m ↔ s.isSet m ∨ m = a ∧ m ≠ .tenAgain := by
  cases a <;> cases m <;> simp [insert, isSet]

theorem isSet_foldl_insert (l : List Modifier) (s : Modifiers) (m : Modifier) :
    (l.foldl insert s).isSet m ↔ s.isSet m ∨ m ∈ l ∧ m ≠ .tenAgain := by
  induction l generalizing s with
  | nil => simp
  | cons a l ih =>
    rw [List.foldl_cons, ih, isSet_insert, List.mem_cons]
    tauto

/-- **The modifiers of a list are those in it** — however often, and in any order. -/
theorem isSet_ofList {l : List Modifier} {m : Modifier} :
    (ofList l).isSet m ↔ m ∈ l ∧ m ≠ .tenAgain := by
  rw [ofList, isSet_foldl_insert]
  cases m <;> simp [isSet]

end Modifiers

namespace Pool

open Text

theorem bind_eq_ok_iff {ε α β : Type} {x : Except ε α} {f : α → Except ε β} {y : β} :
    x >>= f = .ok y ↔ ∃ a, x = .ok a ∧ f a = .ok y := by
  cases x <;> simp [bind, Except.bind]

namespace RollText

/-! ## Sorting the words -/

/-- **A word of a pool names no modifier.** -/
theorem ofWord?_of_isPoolWord {w : List Char} (h : isPoolWord w) : Modifier.ofWord? w = none := by
  have hall : ∀ a ∈ Modifier.aliases, isPoolWord a.1.toList = false := by decide +kernel
  rw [Modifier.ofWord?, Option.map_eq_none_iff, List.find?_eq_none]
  intro a ha heq
  rw [← eq_of_beq heq, hall a ha] at h
  exact absurd h (by decide)

theorem add_flag {t : RollText} {w : List Char} (h : (Modifier.ofWord? w).isSome) :
    t.add w = .ok { t with flags := t.flags ++ [w] } := if_pos h

theorem add_poolWord {t : RollText} {w : List Char} (hflags : t.flags = []) (h : isPoolWord w) :
    t.add w = .ok { t with pool := t.pool ++ [w] } := by
  simp [add, ofWord?_of_isPoolWord h, hflags, h]

/-- **A word is taken in as a modifier, or as part of the pool if no modifier came before.** -/
theorem add_eq_ok_iff {t t' : RollText} {w : List Char} :
    t.add w = .ok t' ↔
      (Modifier.ofWord? w).isSome ∧ t' = { t with flags := t.flags ++ [w] } ∨
        isPoolWord w ∧ t.flags = [] ∧ t' = { t with pool := t.pool ++ [w] } := by
  constructor
  · intro h
    unfold add at h
    split at h
    next hflag => exact .inl ⟨hflag, (Except.ok.inj h).symm⟩
    split at h
    next => cases h
    next hflags =>
      split at h
      next hpool => exact .inr ⟨hpool, by simpa using hflags, (Except.ok.inj h).symm⟩
      next => cases h
  · rintro (⟨hflag, rfl⟩ | ⟨hpool, hflags, rfl⟩)
    · exact add_flag hflag
    · exact add_poolWord hflags hpool

/-- **Words are taken in just in case they are words of a pool and then words for modifiers**, and
there are none of a pool once there is a modifier. -/
theorem foldlM_add_eq_ok_iff {ws : List (List Char)} {t t' : RollText} :
    ws.foldlM add t = .ok t' ↔
      ∃ P F, ws = P ++ F ∧ (∀ w ∈ P, isPoolWord w) ∧ (∀ w ∈ F, (Modifier.ofWord? w).isSome) ∧
        (t.flags = [] ∨ P = []) ∧ t' = ⟨t.pool ++ P, t.flags ++ F⟩ := by
  induction ws generalizing t with
  | nil =>
    rw [List.foldlM_nil]
    constructor
    · rintro ⟨rfl⟩
      exact ⟨[], [], by simp⟩
    · rintro ⟨P, F, hws, -, -, -, rfl⟩
      obtain ⟨rfl, rfl⟩ := List.append_eq_nil_iff.1 hws.symm
      simp [pure, Except.pure]
  | cons w ws ih =>
    simp only [List.foldlM_cons, bind_eq_ok_iff, add_eq_ok_iff, ih]
    constructor
    · rintro ⟨u, ⟨hw, rfl⟩ | ⟨hw, hflags, rfl⟩, P, F, rfl, hP, hF, hsort, rfl⟩
      · -- a modifier: no word of the pool can come any more
        obtain rfl : P = [] := by simpa using hsort
        exact ⟨[], w :: F, by simp, by simp, List.forall_mem_cons.2 ⟨hw, hF⟩, .inr rfl, by simp⟩
      · exact ⟨w :: P, F, by simp, List.forall_mem_cons.2 ⟨hw, hP⟩, hF, .inl hflags, by simp⟩
    · rintro ⟨P, F, hws, hP, hF, hsort, rfl⟩
      cases P with
      | nil =>
        rw [List.nil_append] at hws
        subst hws
        rw [List.forall_mem_cons] at hF
        exact ⟨_, .inl ⟨hF.1, rfl⟩, [], ws, rfl, by simp, hF.2, .inr rfl, by simp⟩
      | cons w' P =>
        obtain ⟨rfl, rfl⟩ := List.cons.inj hws
        rw [List.forall_mem_cons] at hP
        have hflags : t.flags = [] := by simpa using hsort
        exact ⟨_, .inr ⟨hP.1, hflags, rfl⟩, P, F, rfl, hP.2, hF, .inl hflags, by simp⟩

/-- **A text is sorted just in case its words are a pool and then modifiers.** -/
theorem split_eq_ok_iff {text : List Char} {t : RollText} :
    split text = .ok t ↔ words (lower text) = t.pool ++ t.flags ∧ t.pool ≠ [] ∧
      (∀ w ∈ t.pool, isPoolWord w) ∧ ∀ w ∈ t.flags, (Modifier.ofWord? w).isSome := by
  unfold split
  split
  next hnone =>
    refine iff_of_false (by simp) ?_
    rintro ⟨hws, hne, -⟩
    rw [hnone] at hws
    exact hne (List.append_eq_nil_iff.1 hws.symm).1
  next =>
    simp only [bind_eq_ok_iff, foldlM_add_eq_ok_iff, List.nil_append, true_or, true_and]
    constructor
    · rintro ⟨_, ⟨P, F, hws, hP, hF, rfl⟩, hpool⟩
      split at hpool
      next => cases hpool
      next hne =>
        cases hpool
        exact ⟨hws, by simpa using hne, hP, hF⟩
    · rintro ⟨hws, hne, hP, hF⟩
      exact ⟨t, ⟨_, _, hws, hP, hF, rfl⟩, if_neg (by simpa using hne)⟩

end RollText

open RollText

/-! ## The pool -/

/-- Words of a pool come to a number: the word for a chance die alone comes to none, and words of
digits and signs to what they come to as a sum. -/
def PoolComesTo (P : List (List Char)) (v : Int) : Prop :=
  P = [chance] ∧ v = 0 ∨
    (∀ w ∈ P, ∀ c ∈ w, isDigit c ∨ c = '+' ∨ c = '-') ∧ ComesTo (joinWith [' '] P) v

/-- Lower case keeps the characters of a sum. -/
theorem not_lowered_of_isSumChar {c : Char} (h : isSumChar c) :
    ¬Covers Case.loweredFrom c.toNat := by
  simp only [isSumChar, Bool.or_eq_true, beq_iff_eq] at h
  rcases h with ((hd | rfl) | rfl) | hb
  · exact not_covers_of_apart (by decide +kernel) (covers_of_isDigit hd)
  · exact not_covers_of_apart (show apart [(0x2b, 0x2d)] _ by decide +kernel)
      ⟨(0x2b, 0x2d), by simp, by decide⟩
  · exact not_covers_of_apart (show apart [(0x2b, 0x2d)] _ by decide +kernel)
      ⟨(0x2b, 0x2d), by simp, by decide⟩
  · exact not_covers_of_apart (by decide +kernel) (isBlank_iff.1 hb)

theorem isPoolWord_iff {w : List Char} :
    isPoolWord w ↔ w = chance ∨ w ≠ [] ∧ ∀ c ∈ w, isSumChar c := by
  simp [isPoolWord]

/-- **Lower case keeps the words of a pool.** -/
theorem lower_of_isPoolWord {w : List Char} (h : isPoolWord w) : lower w = w := by
  rcases isPoolWord_iff.1 h with rfl | ⟨-, hsum⟩
  · decide +kernel
  · exact lower_eq_self fun c hc => not_lowered_of_isSumChar (hsum c hc)

theorem words_lower_strip (text : List Char) : words (lower (strip text)) = words (lower text) := by
  rw [words_lower, words_strip, ← words_lower]

theorem lower_strip_eq_chance_iff {text : List Char} :
    lower (strip text) = chance ↔ words (lower text) = [chance] := by
  constructor
  · intro h
    rw [← words_lower_strip, h]
    decide +kernel
  · intro h
    rw [words_lower, List.map_eq_singleton_iff] at h
    obtain ⟨w, hw, hlower⟩ := h
    rw [strip_eq_of_words hw, hlower]

theorem words_joinWith_words (s : List Char) : words (joinWith [' '] (words s)) = words s :=
  words_joinWith (fun _ hw => (mem_words hw).1) fun _ hw => (mem_words hw).2

/-- **A text gives a pool just in case its words come to it** — a sum is read word by word. -/
theorem gives_iff {text : List Char} {v : Int} :
    Gives text v ↔ PoolComesTo (words (lower text)) v := by
  have hsame : words (lower (strip text)) = words (joinWith [' '] (words (lower text))) := by
    rw [words_joinWith_words, words_lower_strip]
  rw [Gives, PoolComesTo, lower_strip_eq_chance_iff, comesTo_congr hsame]
  refine or_congr_right ⟨fun h => ⟨fun w hw c hc => ?_, h⟩, And.right⟩
  have hsum : isSumChar c := by
    have hall := forall_isSumChar_iff.1 h.isSumChar
    rw [words_joinWith_words] at hall
    exact hall w hw c hc
  simpa [isSumChar, (mem_words hw).2 c hc, or_assoc] using hsum

theorem PoolComesTo.ne_nil {P : List (List Char)} {v : Int} (h : PoolComesTo P v) : P ≠ [] := by
  rintro rfl
  rcases h with ⟨hchance, -⟩ | ⟨-, hsum⟩
  · cases hchance
  · exact hsum.ne_nil rfl

/-- The word for a chance die stands alone. -/
theorem PoolComesTo.eq_of_mem {P : List (List Char)} {v : Int} (h : PoolComesTo P v)
    (hmem : chance ∈ P) : P = [chance] := by
  rcases h with ⟨rfl, -⟩ | ⟨hchars, -⟩
  · rfl
  · exact absurd (hchars chance hmem 'c' (by decide)) (by decide)

theorem PoolComesTo.isPoolWord {P : List (List Char)} {v : Int} (h : PoolComesTo P v)
    {w : List Char} (hw : w ∈ P) (hne : w ≠ []) : isPoolWord w := by
  rcases h with ⟨rfl, -⟩ | ⟨hchars, -⟩
  · exact isPoolWord_iff.2 (.inl (List.mem_singleton.1 hw))
  · refine isPoolWord_iff.2 (.inr ⟨hne, fun c hc => ?_⟩)
    have := hchars w hw c hc
    simp only [isSumChar, Bool.or_eq_true, beq_iff_eq]
    tauto

/-- The words of a pool are kept when they are joined. -/
theorem words_lower_joinWith {P : List (List Char)} (hP : ∀ w ∈ P, isPoolWord w)
    (hnb : ∀ w ∈ P, w ≠ [] ∧ ∀ c ∈ w, isBlank c = false) :
    words (lower (joinWith [' '] P)) = P := by
  rw [words_lower, words_joinWith (fun w hw => (hnb w hw).1) fun w hw => (hnb w hw).2]
  exact (List.map_congr_left fun w hw => lower_of_isPoolWord (hP w hw)).trans P.map_id

/-- **The joined words of a pool are read as what the words come to.** -/
theorem size_joinWith_eq_ok_iff {P : List (List Char)} (hP : ∀ w ∈ P, isPoolWord w)
    (hnb : ∀ w ∈ P, w ≠ [] ∧ ∀ c ∈ w, isBlank c = false) {v : Int} :
    size (joinWith [' '] P) = .ok v ↔ PoolComesTo P v := by
  rw [size_eq_ok_iff, gives_iff, words_lower_joinWith hP hnb]

/-! ## Requests -/

theorem RollText.request_eq_ok_iff {limit : Int} {t : RollText} {q : Request} :
    t.request limit = .ok q ↔ (chance ∈ t.pool → t.pool = [chance]) ∧
      size t.poolText = .ok q.poolSize ∧ q.poolSize ≤ limit ∧ q.toModifiers = t.modifiers := by
  unfold RollText.request
  split
  next hmixed =>
    refine iff_of_false (by simp) fun ⟨halone, _⟩ => ?_
    simp only [Bool.and_eq_true, List.contains_iff_mem, bne_iff_ne] at hmixed
    exact hmixed.2 (halone hmixed.1)
  next hfine =>
    have halone : chance ∈ t.pool → t.pool = [chance] := by simpa using hfine
    rw [and_iff_right halone]
    split
    next e he => simp [he]
    next pool hpool =>
      rw [hpool]
      split
      next hlarge =>
        refine iff_of_false (by simp) fun ⟨hsize, hle, _⟩ => ?_
        cases hsize
        omega
      next hsmall =>
        obtain ⟨mods, n⟩ := q
        constructor
        · rintro ⟨⟩
          exact ⟨rfl, Int.not_lt.1 hsmall, rfl⟩
        · rintro ⟨⟨⟩, -, rfl⟩
          rfl

/-- Words of a pool and words for modifiers ask for a roll, with at most `limit` dice. -/
structure Asks (limit : Int) (P F : List (List Char)) (q : Request) : Prop where
  /-- There is a pool. -/
  pool_ne_nil : P ≠ []
  /-- It comes to the number of dice, … -/
  poolComesTo : PoolComesTo P q.poolSize
  /-- … which is not above the limit. -/
  poolSize_le : q.poolSize ≤ limit
  /-- The other words are for modifiers. -/
  flags : ∀ w ∈ F, (Modifier.ofWord? w).isSome
  /-- A modifier is set just in case a word names it. -/
  isSet_iff : ∀ m, q.isSet m ↔ m ≠ .tenAgain ∧ ∃ w ∈ F, Modifier.ofWord? w = some m

theorem RollText.eq_modifiers_iff {t : RollText} {s : Modifiers} :
    s = t.modifiers ↔
      ∀ m, s.isSet m ↔ m ≠ .tenAgain ∧ ∃ w ∈ t.flags, Modifier.ofWord? w = some m := by
  have hset (m : Modifier) : t.modifiers.isSet m ↔
      m ≠ .tenAgain ∧ ∃ w ∈ t.flags, Modifier.ofWord? w = some m := by
    rw [RollText.modifiers, Modifiers.isSet_ofList, List.mem_filterMap, and_comm]
  constructor
  · rintro rfl
    exact hset
  · exact fun h => Modifiers.eq_of_isSet fun m => Bool.eq_iff_iff.2 ((h m).trans (hset m).symm)

/-- **The request that is made is the one the words ask for.** -/
theorem requestOf_eq_ok_iff {limit : Int} {text : List Char} {q : Request} :
    requestOf limit text = .ok q ↔
      ∃ P F, words (lower text) = P ++ F ∧ Asks limit P F q := by
  constructor
  · intro h
    unfold requestOf at h
    split at h
    next => cases h
    next t ht =>
      obtain ⟨hws, hne, hP, hF⟩ := split_eq_ok_iff.1 ht
      obtain ⟨halone, hsize, hle, hmods⟩ := request_eq_ok_iff.1 h
      have hnb : ∀ w ∈ t.pool, w ≠ [] ∧ ∀ c ∈ w, isBlank c = false := fun w hw =>
        mem_words (hws ▸ List.mem_append_left _ hw)
      exact ⟨t.pool, t.flags, hws, hne, (size_joinWith_eq_ok_iff hP hnb).1 hsize, hle, hF,
        eq_modifiers_iff.1 hmods⟩
  · rintro ⟨P, F, hws, h⟩
    have hnb : ∀ w ∈ P, w ≠ [] ∧ ∀ c ∈ w, isBlank c = false := fun w hw =>
      mem_words (hws ▸ List.mem_append_left _ hw)
    have hP : ∀ w ∈ P, isPoolWord w := fun w hw => h.poolComesTo.isPoolWord hw (hnb w hw).1
    have ht : split text = .ok ⟨P, F⟩ := split_eq_ok_iff.2 ⟨hws, h.pool_ne_nil, hP, h.flags⟩
    rw [requestOf, ht]
    exact request_eq_ok_iff.2 ⟨h.poolComesTo.eq_of_mem,
      (size_joinWith_eq_ok_iff hP hnb).2 h.poolComesTo, h.poolSize_le,
      eq_modifiers_iff.2 h.isSet_iff⟩

/-- The words for modifiers count as a set. -/
theorem Asks.of_mem_iff {limit : Int} {P F F' : List (List Char)} {q : Request}
    (h : Asks limit P F q) (hmem : ∀ w, w ∈ F' ↔ w ∈ F) : Asks limit P F' q where
  pool_ne_nil := h.pool_ne_nil
  poolComesTo := h.poolComesTo
  poolSize_le := h.poolSize_le
  flags w hw := h.flags w ((hmem w).1 hw)
  isSet_iff m := by simpa only [hmem] using h.isSet_iff m

/-- No word of the pool is one for a modifier. -/
theorem Asks.ofWord?_eq_none {limit : Int} {P F : List (List Char)} {q : Request}
    (h : Asks limit P F q) {w : List Char} (hw : w ∈ P) (hne : w ≠ []) :
    Modifier.ofWord? w = none :=
  ofWord?_of_isPoolWord (h.poolComesTo.isPoolWord hw hne)

/-- **The pool of a request ends no later than the words for modifiers begin.** -/
theorem exists_asks_of_append {limit : Int} {text : List Char} {P F : List (List Char)} {q : Request}
    (hws : words (lower text) = P ++ F) (hF : ∀ w ∈ F, (Modifier.ofWord? w).isSome)
    (h : requestOf limit text = .ok q) : ∃ P₀ G, P = P₀ ++ G ∧ Asks limit P₀ (G ++ F) q := by
  obtain ⟨P₀, F₀, hws₀, hasks⟩ := requestOf_eq_ok_iff.1 h
  rcases List.append_eq_append_iff.1 (hws₀.symm.trans hws) with ⟨G, rfl, rfl⟩ | ⟨G, rfl, rfl⟩
  · exact ⟨P₀, G, rfl, hasks⟩
  · -- what is left of the pool would be words for modifiers, and no word of a pool is
    obtain rfl : G = [] := by
      refine List.eq_nil_iff_forall_not_mem.2 fun w hw => ?_
      have hword := mem_words (hws₀ ▸ List.mem_append_left _ (List.mem_append_right P hw))
      have hflag := hF w (List.mem_append_left _ hw)
      rw [hasks.ofWord?_eq_none (List.mem_append_right P hw) hword.1] at hflag
      cases hflag
    rw [List.append_nil] at hasks
    exact ⟨P, [], (List.append_nil P).symm, hasks⟩

/-- **Words for modifiers may change places and be said again.** -/
theorem requestOf_of_mem_iff {limit : Int} {text text' : List Char} {P F F' : List (List Char)}
    {q : Request} (hws : words (lower text) = P ++ F) (hws' : words (lower text') = P ++ F')
    (hF : ∀ w ∈ F, (Modifier.ofWord? w).isSome) (hmem : ∀ w, w ∈ F' ↔ w ∈ F)
    (h : requestOf limit text = .ok q) : requestOf limit text' = .ok q := by
  obtain ⟨P₀, G, rfl, hasks⟩ := exists_asks_of_append hws hF h
  refine requestOf_eq_ok_iff.2 ⟨P₀, G ++ F', by rw [hws', List.append_assoc], ?_⟩
  exact hasks.of_mem_iff fun w => by simp only [List.mem_append, hmem]

/-- **A text without modifiers asks for the pool it gives.** -/
theorem size_eq_ok_iff_requestOf {limit : Int} {text : List Char}
    (hnone : ∀ w ∈ words (lower text), Modifier.ofWord? w = none) {v : Int} (hv : v ≤ limit) :
    size text = .ok v ↔ ∃ q, requestOf limit text = .ok q ∧ q.poolSize = v := by
  rw [size_eq_ok_iff, gives_iff]
  constructor
  · intro h
    refine ⟨{ poolSize := v }, requestOf_eq_ok_iff.2 ⟨words (lower text), [], by simp, ?_⟩, rfl⟩
    exact ⟨h.ne_nil, h, hv, by simp, fun m => by cases m <;> simp [Modifiers.isSet]⟩
  · rintro ⟨q, hq, rfl⟩
    obtain ⟨P, F, hws, h⟩ := requestOf_eq_ok_iff.1 hq
    obtain rfl : F = [] := by
      refine List.eq_nil_iff_forall_not_mem.2 fun w hw => ?_
      have hflag := h.flags w hw
      rw [hnone w (hws ▸ List.mem_append_right P hw)] at hflag
      cases hflag
    rw [hws, List.append_nil]
    exact h.poolComesTo

/-- **The request of a text is decided by the grammar**: words of a pool and then words for
modifiers are read as the request they ask for, and any other text is refused. The order and number
of the modifiers do not matter, and without any the pool is the one that the text alone gives. -/
theorem requestOf_decides_grammar (limit : Int) (text : List Char) :
    (∀ q, requestOf limit text = .ok q ↔
      ∃ P F, words (lower text) = P ++ F ∧ Asks limit P F q) ∧
    ((∀ q P F, words (lower text) = P ++ F → ¬Asks limit P F q) →
      ∃ e, requestOf limit text = .error e) ∧
    (∀ text' P F F', words (lower text) = P ++ F → words (lower text') = P ++ F' →
      (∀ w ∈ F, (Modifier.ofWord? w).isSome) → (∀ w, w ∈ F' ↔ w ∈ F) →
        ∀ q, requestOf limit text = .ok q → requestOf limit text' = .ok q) ∧
    ((∀ w ∈ words (lower text), Modifier.ofWord? w = none) → ∀ v ≤ limit,
      (size text = .ok v ↔ ∃ q, requestOf limit text = .ok q ∧ q.poolSize = v)) := by
  refine ⟨fun q => requestOf_eq_ok_iff, fun hnone => ?_,
    fun text' P F F' hws hws' hF hmem q h => requestOf_of_mem_iff hws hws' hF hmem h,
    fun hnone v hv => size_eq_ok_iff_requestOf hnone hv⟩
  cases h : requestOf limit text with
  | error e => exact ⟨e, rfl⟩
  | ok q =>
    obtain ⟨P, F, hws, hasks⟩ := requestOf_eq_ok_iff.1 h
    exact absurd hasks (hnone q P F hws)

/-- A sum cut into words in three places, with its modifiers in either order and with none. -/
theorem requestOf_decides_grammar_nineAgain_rote :
    requestOf 100 "3 + 2 -1 9-Again ROTE".toList =
        .ok { rote := true, nineAgain := true, poolSize := 4 } ∧
      requestOf 100 "3 + 2 -1 rote 9-again rote".toList =
        .ok { rote := true, nineAgain := true, poolSize := 4 } ∧
      (size "3 + 2 -1".toList = .ok 4 ↔
        ∃ q, requestOf 100 "3 + 2 -1".toList = .ok q ∧ q.poolSize = 4) := by
  have hwords : words (lower "3 + 2 -1 9-Again ROTE".toList) =
      [['3'], ['+'], ['2'], ['-', '1']] ++ ["9-again".toList, "rote".toList] := by decide +kernel
  have hwords' : words (lower "3 + 2 -1 rote 9-again rote".toList) =
      [['3'], ['+'], ['2'], ['-', '1']] ++ ["rote".toList, "9-again".toList, "rote".toList] := by
    decide +kernel
  have hchars : ∀ w ∈ [['3'], ['+'], ['2'], ['-', '1']], ∀ c ∈ w,
      isDigit c ∨ c = '+' ∨ c = '-' := by
    have hall : [['3'], ['+'], ['2'], ['-', '1']].all fun w =>
        w.all fun c => isDigit c || (c == '+' || c == '-') := by decide +kernel
    simpa only [List.all_eq_true, Bool.or_eq_true, beq_iff_eq] using hall
  have hsum : ComesTo (joinWith [' '] [['3'], ['+'], ['2'], ['-', '1']]) 4 :=
    ⟨⟨none, ['3'], [(.plus, ['2']), (.minus, ['1'])]⟩, spells_iff.2
      ⟨List.all_eq_true.1 (by decide +kernel), by decide +kernel⟩, by decide, by decide +kernel⟩
  have hasks : requestOf 100 "3 + 2 -1 9-Again ROTE".toList =
      .ok { rote := true, nineAgain := true, poolSize := 4 } :=
    ((requestOf_decides_grammar 100 _).1 _).2 ⟨_, _, hwords, by simp, .inr ⟨hchars, hsum⟩,
      by decide, by decide +kernel, fun m => by cases m <;> decide +kernel⟩
  have hmem (w : List Char) : w ∈ ["rote".toList, "9-again".toList, "rote".toList] ↔
      w ∈ ["9-again".toList, "rote".toList] := by
    simp only [List.mem_cons, List.not_mem_nil, or_false]
    exact ⟨fun h => h.elim .inr id, .inr⟩
  exact ⟨hasks,
    (requestOf_decides_grammar 100 _).2.2.1 _ _ _ _ hwords hwords' (by decide +kernel) hmem _ hasks,
    (requestOf_decides_grammar 100 _).2.2.2 (by decide +kernel) 4 (by decide)⟩

end Pool

end DicePool
