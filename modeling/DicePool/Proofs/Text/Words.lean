import DicePool.Proofs.Text.Classes
import Mathlib.Data.List.DropRight

/-!
# Proofs/Text/Words — a text read word by word

Blanks cut a text into words, and nothing that looks at words alone sees more of a text than
`words`. `induction_at_blanks` goes through a text a word at a time; with it trimming keeps the
words (`words_strip`), joining is undone (`words_joinWith`), and lower case works on each word by
itself (`words_lower`) — also where a capital sigma ends a word, since the rule for it does not look
past a blank.
-/

namespace DicePool.Text

/-! ## One word after another -/

/-- **A property of texts goes through word by word** — a text without blanks, then a blank and the
rest. -/
theorem induction_at_blanks {motive : List Char → Prop}
    (word : ∀ w, (∀ c ∈ w, isBlank c = false) → motive w)
    (blank : ∀ w b t, (∀ c ∈ w, isBlank c = false) → isBlank b → motive t → motive (w ++ b :: t))
    (s : List Char) : motive s := by
  -- the word that has been read so far is carried along
  suffices h : ∀ w, (∀ c ∈ w, isBlank c = false) → motive (w ++ s) from h [] (by simp)
  induction s with
  | nil => intro w hw; simpa using word w hw
  | cons c s ih =>
    intro w hw
    cases hc : isBlank c with
    | true => exact blank w c s hw hc (ih [] (by simp))
    | false => simpa using ih (w ++ [c]) (by simpa [or_imp, forall_and] using ⟨hw, hc⟩)

@[simp] theorem words_nil : words [] = [] := rfl

theorem words_eq_singleton {w : List Char} (hne : w ≠ []) (h : ∀ c ∈ w, isBlank c = false) :
    words w = [w] := by
  simp [words, List.splitOnP_eq_singleton h, hne]

/-- **A blank ends a word.** -/
theorem words_append_blank (s : List Char) {b : Char} (hb : isBlank b) (t : List Char) :
    words (s ++ b :: t) = words s ++ words t := by
  simp [words, List.splitOnP_append_cons s t hb]

theorem words_blank_cons {b : Char} (hb : isBlank b) (t : List Char) :
    words (b :: t) = words t := by
  simpa using words_append_blank [] hb t

theorem mem_words_of_not_blank {v w : List Char} (hv : ∀ c ∈ v, isBlank c = false) :
    w ∈ words v ↔ w = v ∧ v ≠ [] := by
  rcases eq_or_ne v [] with rfl | hne
  · simp
  · simp [words_eq_singleton hne hv, hne]

/-- **The words are not empty and hold no blank.** -/
theorem mem_words {s w : List Char} : w ∈ words s → w ≠ [] ∧ ∀ c ∈ w, isBlank c = false := by
  have hword {v : List Char} (hv : ∀ c ∈ v, isBlank c = false) (h : w ∈ words v) :
      w ≠ [] ∧ ∀ c ∈ w, isBlank c = false := by
    obtain ⟨rfl, hne⟩ := (mem_words_of_not_blank hv).1 h
    exact ⟨hne, hv⟩
  induction s using induction_at_blanks with
  | word v hv => exact hword hv
  | blank v b t hv hb ih =>
    rw [words_append_blank v hb, List.mem_append]
    exact fun h => h.elim (hword hv) ih

/-- **A character is in a word just in case it is in the text and no blank.** -/
theorem exists_mem_words_iff {s : List Char} {c : Char} :
    (∃ w ∈ words s, c ∈ w) ↔ c ∈ s ∧ isBlank c = false := by
  have hword {v : List Char} (hv : ∀ c ∈ v, isBlank c = false) :
      (∃ w ∈ words v, c ∈ w) ↔ c ∈ v ∧ isBlank c = false := by
    simp only [mem_words_of_not_blank hv]
    exact ⟨fun ⟨w, ⟨hw, _⟩, hc⟩ => hw ▸ ⟨hc, hv c (hw ▸ hc)⟩,
      fun ⟨hc, _⟩ => ⟨v, ⟨rfl, List.ne_nil_of_mem hc⟩, hc⟩⟩
  induction s using induction_at_blanks with
  | word v hv => exact hword hv
  | blank v b t hv hb ih =>
    have hnb : c = b → ¬isBlank c = false := by
      rintro rfl
      simp [hb]
    simp only [words_append_blank v hb, List.mem_append, List.mem_cons, or_and_right, exists_or,
      hword hv, ih]
    tauto

theorem words_eq_nil_iff {s : List Char} : words s = [] ↔ ∀ c ∈ s, isBlank c := by
  constructor
  · intro h c hc
    by_contra hnb
    obtain ⟨w, hw, -⟩ := exists_mem_words_iff.2 ⟨hc, Bool.eq_false_iff.2 hnb⟩
    simp [h] at hw
  · refine fun h => List.eq_nil_iff_forall_not_mem.2 fun w hw => ?_
    obtain ⟨c, hc⟩ := List.exists_mem_of_ne_nil w (mem_words hw).1
    obtain ⟨hs, hnb⟩ := exists_mem_words_iff.1 ⟨w, hw, hc⟩
    simp [h c hs] at hnb

/-! ## Joined words -/

theorem joinWith_singleton (sep w : List Char) : joinWith sep [w] = w :=
  List.intercalate_singleton

theorem joinWith_cons_cons (sep w w' : List Char) (ws : List (List Char)) :
    joinWith sep (w :: w' :: ws) = w ++ sep ++ joinWith sep (w' :: ws) := by
  simp [joinWith, List.intercalate_cons_cons]

/-- **The words of joined words are the words.** -/
theorem words_joinWith {ws : List (List Char)} (hne : ∀ w ∈ ws, w ≠ [])
    (hnb : ∀ w ∈ ws, ∀ c ∈ w, isBlank c = false) : words (joinWith [' '] ws) = ws := by
  induction ws with
  | nil => rfl
  | cons w ws ih =>
    rw [List.forall_mem_cons] at hne hnb
    have hw : words w = [w] := words_eq_singleton hne.1 hnb.1
    cases ws with
    | nil => simpa [joinWith] using hw
    | cons w' ws =>
      rw [joinWith_cons_cons, List.append_assoc, List.singleton_append,
        words_append_blank w (by decide), hw, ih hne.2 hnb.2, List.singleton_append]

/-! ## Trimmed texts -/

theorem words_blanks_append {l : List Char} (hl : ∀ c ∈ l, isBlank c) (t : List Char) :
    words (l ++ t) = words t := by
  induction l with
  | nil => rfl
  | cons b l ih =>
    rw [List.forall_mem_cons] at hl
    rw [List.cons_append, words_blank_cons hl.1, ih hl.2]

theorem words_append_blanks (s : List Char) {r : List Char} (hr : ∀ c ∈ r, isBlank c) :
    words (s ++ r) = words s := by
  cases r with
  | nil => rw [List.append_nil]
  | cons b r =>
    rw [List.forall_mem_cons] at hr
    rw [words_append_blank s hr.1, words_eq_nil_iff.2 hr.2, List.append_nil]

theorem strip_eq_rdropWhile (s : List Char) :
    strip s = (s.dropWhile isBlank).rdropWhile isBlank := rfl

/-- **Trimming keeps the words.** -/
theorem words_strip (s : List Char) : words (strip s) = words s := by
  conv_rhs => rw [← List.takeWhile_append_dropWhile (p := isBlank) (l := s),
    words_blanks_append fun c hc => List.mem_takeWhile_imp hc,
    ← List.rdropWhile_append_rtakeWhile (p := isBlank) (l := s.dropWhile isBlank),
    words_append_blanks _ fun c hc => List.mem_rtakeWhile_imp hc]
  rfl

/-- A trimmed text does not begin with a blank, … -/
theorem isBlank_eq_false_of_head?_strip {s : List Char} {c : Char} (h : (strip s).head? = some c) :
    isBlank c = false := by
  obtain ⟨r, hr⟩ := List.rdropWhile_prefix isBlank (l := s.dropWhile isBlank)
  have hhead : (s.dropWhile isBlank).head? = some c := by
    rw [← hr, List.head?_append, ← strip_eq_rdropWhile, h]
    rfl
  have hnot := List.head?_dropWhile_not isBlank s
  rwa [hhead] at hnot

/-- … and does not end with one. -/
theorem isBlank_eq_false_of_getLast?_strip {s : List Char} {c : Char}
    (h : (strip s).getLast? = some c) : isBlank c = false := by
  have hne : strip s ≠ [] := by
    intro hnil
    simp [hnil] at h
  rw [List.getLast?_eq_some_getLast hne, Option.some.injEq] at h
  rw [← h]
  exact Bool.eq_false_iff.2 (List.rdropWhile_last_not isBlank _ hne)

/-- **A trimmed text of one word is that word.** -/
theorem strip_eq_of_words {s w : List Char} (h : words s = [w]) : strip s = w := by
  have hhead : ∀ c, (strip s).head? = some c → isBlank c = false :=
    fun c => isBlank_eq_false_of_head?_strip
  have hlast : ∀ c, (strip s).getLast? = some c → isBlank c = false :=
    fun c => isBlank_eq_false_of_getLast?_strip
  rw [← words_strip] at h
  generalize strip s = t at h hhead hlast
  induction t using induction_at_blanks with
  | word v hv =>
    rcases eq_or_ne v [] with rfl | hne
    · simp at h
    · rw [words_eq_singleton hne hv] at h
      exact List.singleton_inj.1 h
  | blank v b t hv hb _ =>
    -- the first word is all there is, and then the text would end with a blank
    exfalso
    have hne : v ≠ [] := by
      rintro rfl
      exact absurd hb (by simp [hhead b rfl])
    rw [words_append_blank v hb, words_eq_singleton hne hv, List.singleton_append,
      List.cons.injEq, words_eq_nil_iff] at h
    have hblank : ∀ c ∈ b :: t, isBlank c := List.forall_mem_cons.2 ⟨hb, h.2⟩
    have hnot := hlast ((b :: t).getLast (List.cons_ne_nil b t)) (by
      rw [List.getLast?_append, List.getLast?_eq_some_getLast (List.cons_ne_nil b t)]
      rfl)
    simp [hblank _ (List.getLast_mem _)] at hnot

/-! ## Lower case -/

namespace Case

theorem startsCased_cons (c : Char) (s : List Char) :
    startsCased (c :: s) =
      if isIgnorable c then startsCased s else inRanges casedRanges c.toNat := by
  cases h : isIgnorable c <;> simp [startsCased, h]

/-- **The rule for the final sigma does not look past a blank** — a blank is neither skipped nor
cased. -/
theorem startsCased_append_blank (s : List Char) {b : Char} (hb : isBlank b) (t : List Char) :
    startsCased (s ++ b :: t) = startsCased s := by
  induction s with
  | nil => simp [startsCased, isIgnorable_of_isBlank hb, not_cased_of_isBlank hb]
  | cons c s ih => rw [List.cons_append, startsCased_cons, startsCased_cons, ih]

end Case

open Case

theorem lowerChar_append_blank_left (before : List Char) {b : Char} (hb : isBlank b)
    (l : List Char) (c : Char) (after : List Char) :
    lowerChar (before ++ b :: l) c after = lowerChar before c after := by
  simp only [lowerChar, startsCased_append_blank before hb]

theorem lowerChar_append_blank_right (before : List Char) (c : Char) (after : List Char) {b : Char}
    (hb : isBlank b) (t : List Char) :
    lowerChar before c (after ++ b :: t) = lowerChar before c after := by
  simp only [lowerChar, startsCased_append_blank after hb]

/-- What stands before a blank does not matter after it, … -/
theorem lower_go_append_blank_left (before : List Char) {b : Char} (hb : isBlank b)
    (l t : List Char) : lower.go (before ++ b :: l) t = lower.go before t := by
  induction t generalizing before with
  | nil => rfl
  | cons c t ih =>
    rw [lower.go, lower.go, lowerChar_append_blank_left before hb, ← List.cons_append, ih]

/-- … nor what stands after it before. -/
theorem lower_go_append_blank_right (before s : List Char) {b : Char} (hb : isBlank b)
    (t : List Char) : lower.go before (s ++ b :: t) = lower.go before s ++ b :: lower t := by
  induction s generalizing before with
  | nil =>
    rw [List.nil_append, lower.go, lower.go, lowerChar_of_isBlank hb]
    exact congrArg (b :: ·) (lower_go_append_blank_left [] hb before t)
  | cons c s ih =>
    rw [List.cons_append, lower.go, lower.go, lowerChar_append_blank_right before c s hb, ih,
      List.append_assoc]

/-- **Lower case works on either side of a blank by itself.** -/
theorem lower_append_blank (s : List Char) {b : Char} (hb : isBlank b) (t : List Char) :
    lower (s ++ b :: t) = lower s ++ b :: lower t :=
  lower_go_append_blank_right [] s hb t

theorem isBlank_eq_false_of_mem_lower {s : List Char} (hs : ∀ c ∈ s, isBlank c = false) :
    ∀ d ∈ lower s, isBlank d = false := by
  suffices h : ∀ before, ∀ d ∈ lower.go before s, isBlank d = false from h []
  induction s with
  | nil => simp [lower.go]
  | cons c s ih =>
    rw [List.forall_mem_cons] at hs
    intro before d hd
    rw [lower.go, List.mem_append] at hd
    exact hd.elim (isBlank_eq_false_of_mem_lowerChar hs.1) (ih hs.2 _ d)

theorem lower_ne_nil {s : List Char} (h : s ≠ []) : lower s ≠ [] := by
  obtain ⟨c, t, rfl⟩ := List.exists_cons_of_ne_nil h
  exact List.append_ne_nil_of_left_ne_nil (lowerChar_ne_nil [] c t) _

/-- **The words of a text in lower case are its words in lower case.** -/
theorem words_lower (s : List Char) : words (lower s) = (words s).map lower := by
  have hword {w : List Char} (hw : ∀ c ∈ w, isBlank c = false) :
      words (lower w) = (words w).map lower := by
    rcases eq_or_ne w [] with rfl | hne
    · rfl
    · rw [words_eq_singleton hne hw, words_eq_singleton (lower_ne_nil hne)
        (isBlank_eq_false_of_mem_lower hw), List.map_singleton]
  induction s using induction_at_blanks with
  | word w hw => exact hword hw
  | blank w b t hw hb ih =>
    rw [lower_append_blank w hb, words_append_blank _ hb, words_append_blank w hb, List.map_append,
      hword hw, ih]

/-- A text of blanks and of characters that lower case keeps is its own lower case. -/
theorem lower_eq_self {s : List Char} (h : ∀ c ∈ s, ¬Covers loweredFrom c.toNat) : lower s = s := by
  suffices hgo : ∀ before, lower.go before s = s from hgo []
  induction s with
  | nil => exact fun _ => rfl
  | cons c s ih =>
    rw [List.forall_mem_cons] at h
    intro before
    rw [lower.go, lowerChar_of_not_covers h.1, ih h.2, List.singleton_append]

end DicePool.Text
