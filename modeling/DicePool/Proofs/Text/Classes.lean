import DicePool.Text.Case
import DicePool.Text.Digit

/-!
# Proofs/Text/Classes — classes of characters that have nothing in common

Blanks, digits, cased letters and the characters that lower case changes are all given by ranges of
code points, so that two classes are told apart by comparing ends of ranges: `not_covers_of_apart`.
What the notation of rolls rests on: a digit is no blank (`isBlank_eq_false_of_isDigit`), lower case
leaves blanks alone (`lowerChar_of_isBlank`), and it makes no blank of anything else
(`isBlank_eq_false_of_mem_lowerChar`).
-/

namespace DicePool.Text

/-! ## Ranges of code points -/

/-- A code point lies in one of the ranges. -/
def Covers (rs : List (Nat × Nat)) (n : Nat) : Prop :=
  ∃ r ∈ rs, r.1 ≤ n ∧ n ≤ r.2

/-- No range of the one list meets a range of the other. -/
def apart (rs rs' : List (Nat × Nat)) : Bool :=
  rs.all fun r => rs'.all fun r' => r.2 < r'.1 || r'.2 < r.1

theorem inRanges_iff {rs : Array (Nat × Nat)} {n : Nat} : inRanges rs n ↔ Covers rs.toList n := by
  simp [inRanges, Covers, ← Array.any_toList]

/-- **Classes that lie apart share no character.** -/
theorem not_covers_of_apart {rs rs' : List (Nat × Nat)} (h : apart rs rs') {n : Nat}
    (hn : Covers rs n) : ¬Covers rs' n := by
  rintro ⟨r', hr', hlo', hhi'⟩
  obtain ⟨r, hr, hlo, hhi⟩ := hn
  have hends := List.all_eq_true.1 (List.all_eq_true.1 h r hr) r' hr'
  simp only [Bool.or_eq_true, decide_eq_true_eq] at hends
  omega

/-! ## Blanks, digits and letters -/

/-- The blanks. -/
def blankRanges : List (Nat × Nat) :=
  [(0x09, 0x0d), (0x1c, 0x20), (0x85, 0x85), (0xa0, 0xa0), (0x1680, 0x1680), (0x2000, 0x200a),
   (0x2028, 0x2029), (0x202f, 0x202f), (0x205f, 0x205f), (0x3000, 0x3000)]

theorem isBlank_iff {c : Char} : isBlank c ↔ Covers blankRanges c.toNat := by
  simp only [isBlank, isWhiteSpace, Covers, blankRanges, List.mem_cons, List.not_mem_nil, or_false,
    exists_eq_or_imp, exists_eq_left, Bool.or_eq_true, Bool.and_eq_true, decide_eq_true_eq,
    beq_iff_eq]
  omega

theorem isBlank_eq_false_iff {c : Char} : isBlank c = false ↔ ¬Covers blankRanges c.toNat := by
  rw [← isBlank_iff, Bool.not_eq_true]

/-- The digits, ten from each zero. -/
def digitRanges : List (Nat × Nat) :=
  digitZeros.map fun z => (z, z + 9)

theorem covers_of_isDigit {c : Char} (h : isDigit c) : Covers digitRanges c.toNat := by
  obtain ⟨d, hd⟩ := Option.isSome_iff_exists.1 h
  obtain ⟨z, hz, rfl⟩ := Option.map_eq_some_iff.1 hd
  have hrun := List.find?_some hz
  simp only [Bool.and_eq_true, decide_eq_true_eq] at hrun
  exact ⟨(z, z + 9), List.mem_map_of_mem (List.mem_of_find?_eq_some hz), hrun.1, by simp; omega⟩

/-- **A digit is no blank.** -/
theorem isBlank_eq_false_of_isDigit {c : Char} (h : isDigit c) : isBlank c = false :=
  isBlank_eq_false_iff.2 (not_covers_of_apart (by decide +kernel) (covers_of_isDigit h))

/-- The letters of ASCII. -/
def letterRanges : List (Nat × Nat) := [(0x41, 0x5a), (0x61, 0x7a)]

theorem isAlpha_iff {c : Char} : c.isAlpha ↔ Covers letterRanges c.toNat := by
  change (decide (65 ≤ c.val ∧ c.val ≤ 90)
    || (decide (97 ≤ c.val) && decide (c.val ≤ 122))) = true ↔ _
  simp [Covers, letterRanges, UInt32.le_iff_toNat_le]

/-! ## Lower case -/

namespace Case

/-- The characters that the final sigma rule skips are no blanks. -/
theorem isIgnorable_of_isBlank {c : Char} (h : isBlank c) : isIgnorable c = false := by
  rw [← Bool.not_eq_true, isIgnorable, inRanges_iff]
  exact not_covers_of_apart (by decide +kernel) (isBlank_iff.1 h)

/-- A blank is no cased letter. -/
theorem not_cased_of_isBlank {c : Char} (h : isBlank c) : inRanges casedRanges c.toNat = false := by
  rw [← Bool.not_eq_true, inRanges_iff]
  exact not_covers_of_apart (by decide +kernel) (isBlank_iff.1 h)

/-- The characters that lower case may change. -/
def loweredFrom : List (Nat × Nat) :=
  (0x130, 0x130) :: lowerRuns.toList.map fun (first, last, _, _) => (first, last)

/-- The characters that lower case may change them to; the first stands in for what is no code
point. -/
def loweredTo : List (Nat × Nat) :=
  [(0, 0), (0x307, 0x307), (0x3c2, 0x3c2)]
    ++ lowerRuns.toList.map fun (first, last, _, shift) =>
      ((first + shift).toNat, (last + shift).toNat)

/-- A character in no row of the table stays as it is; the others move by the shift of their row. -/
theorem shift_eq (runs : Array (Nat × Nat × Nat × Int)) (c : Char) :
    shift runs c = c ∨ ∃ row ∈ runs.toList, row.1 ≤ c.toNat ∧ c.toNat ≤ row.2.1 ∧
      shift runs c = Char.ofNat (c.toNat + row.2.2.2).toNat := by
  unfold shift
  split
  next first last step delta h =>
    have hrow := Array.find?_some h
    simp only [Bool.and_eq_true, decide_eq_true_eq] at hrow
    exact .inr ⟨_, (Array.mem_of_find?_eq_some h).val, hrow.1.1, hrow.1.2, rfl⟩
  next => exact .inl rfl

/-- A number that is no code point gives the character zero. -/
theorem toNat_ofNat (n : Nat) : (Char.ofNat n).toNat = n ∨ (Char.ofNat n).toNat = 0 := by
  by_cases h : n.isValidChar
  · exact .inl (by rw [Char.ofNat, dif_pos h]; rfl)
  · exact .inr (by rw [Char.ofNat, dif_neg h]; rfl)

end Case

open Case

/-- **Lower case keeps the characters of no row.** -/
theorem lowerChar_of_not_covers {c : Char} (h : ¬Covers loweredFrom c.toNat)
    (before after : List Char) : lowerChar before c after = [c] := by
  have hnot {r : Nat × Nat} (hr : r ∈ loweredFrom) : ¬(r.1 ≤ c.toNat ∧ c.toNat ≤ r.2) :=
    fun hc => h ⟨r, hr, hc⟩
  have hupper : ¬('A' ≤ c ∧ c ≤ 'Z') := hnot (r := (0x41, 0x5a)) (by decide +kernel)
  have hdotted : c ≠ 'İ' := by
    rintro rfl
    exact hnot (r := (0x130, 0x130)) (by decide +kernel) (by decide)
  -- the capital sigma lies in a row of the table, whatever stands around it
  have hsigma : c ≠ 'Σ' := by
    rintro rfl
    exact hnot (r := (0x3a3, 0x3ab)) (by decide +kernel) (by decide)
  have hrows : shift lowerRuns c = c := by
    rcases shift_eq lowerRuns c with hkeep | ⟨row, hrow, hlo, hhi, -⟩
    · exact hkeep
    · exact (hnot (r := (row.1, row.2.1))
        (List.mem_cons_of_mem _ (List.mem_map_of_mem hrow)) ⟨hlo, hhi⟩).elim
  simp [lowerChar, hupper, hdotted, hsigma, hrows]

/-- **What lower case makes of a character is the character or the image of a row.** -/
theorem covers_of_mem_lowerChar {before after : List Char} {c d : Char}
    (h : d ∈ lowerChar before c after) : d = c ∨ Covers loweredTo d.toNat := by
  -- a shifted character is the shifted code point, or zero where that is none
  have himage {r : Nat × Nat × Nat × Int} (hr : r ∈ lowerRuns.toList) (hlo : r.1 ≤ c.toNat)
      (hhi : c.toNat ≤ r.2.1) : Covers loweredTo (Char.ofNat (c.toNat + r.2.2.2).toNat).toNat := by
    obtain ⟨first, last, step, delta⟩ := r
    dsimp only at hlo hhi ⊢
    rcases toNat_ofNat (c.toNat + delta).toNat with heq | hzero
    · rw [heq]
      exact ⟨((first + delta).toNat, (last + delta).toNat),
        List.mem_append_right _ (List.mem_map_of_mem hr),
        by dsimp only; omega, by dsimp only; omega⟩
    · rw [hzero]
      exact ⟨(0, 0), by simp [loweredTo], Nat.le_refl _, Nat.le_refl _⟩
  unfold lowerChar at h
  split at h
  · rw [List.mem_singleton] at h
    subst h
    split
    next hup =>
      simp only [Bool.and_eq_true, decide_eq_true_eq] at hup
      exact .inr (himage (r := (0x41, 0x5a, 1, 32)) (by decide +kernel) hup.1 hup.2)
    next => exact .inl rfl
  split at h
  · simp only [List.mem_cons, List.not_mem_nil, or_false] at h
    rcases h with rfl | rfl
    · exact .inr ⟨(0x61, 0x7a), by decide +kernel, by decide, by decide⟩
    · exact .inr ⟨(0x307, 0x307), by decide +kernel, by decide, by decide⟩
  split at h
  · rw [List.mem_singleton] at h
    subst h
    split
    · exact .inr ⟨(0x3c2, 0x3c2), by decide +kernel, by decide, by decide⟩
    · exact .inr ⟨(0x3c3, 0x3cb), by decide +kernel, by decide, by decide⟩
  · rw [List.mem_singleton] at h
    rcases shift_eq lowerRuns c with hkeep | ⟨row, hrow, hlo, hhi, heq⟩
    · exact .inl (h.trans hkeep)
    · rw [h, heq]
      exact .inr (himage hrow hlo hhi)

theorem lowerChar_of_isBlank {b : Char} (h : isBlank b) (before after : List Char) :
    lowerChar before b after = [b] :=
  lowerChar_of_not_covers (not_covers_of_apart (by decide +kernel) (isBlank_iff.1 h)) before after

/-- **Lower case makes no blank of what is none.** -/
theorem isBlank_eq_false_of_mem_lowerChar {before after : List Char} {c d : Char}
    (hc : isBlank c = false) (hd : d ∈ lowerChar before c after) : isBlank d = false := by
  rcases covers_of_mem_lowerChar hd with rfl | hto
  · exact hc
  · exact isBlank_eq_false_iff.2 (not_covers_of_apart (by decide +kernel) hto)

/-- No character is dropped. -/
theorem lowerChar_ne_nil (before : List Char) (c : Char) (after : List Char) :
    lowerChar before c after ≠ [] := by
  unfold lowerChar
  repeat' split
  all_goals exact List.cons_ne_nil _ _

end DicePool.Text
