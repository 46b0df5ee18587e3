import DicePool.Proofs.Number.Decimal
import Mathlib.Data.List.TakeWhile

/-!
# Proofs/Number/Reading — a numeral is read as the number it was written for

Typed numbers may be spelled in many ways, of which the decimal text is one. Main statement
`readWhole_toString`: it reads back, unless it has more digits than are read.
-/

namespace DicePool

namespace Text

/-- The value of a digit of the usual script. -/
theorem digitValue?_of_isDigit {c : Char} (h : c.isDigit) :
    digitValue? c = some (c.toNat - '0'.toNat) := by
  obtain ⟨hlo, hhi⟩ : 48 ≤ c.toNat ∧ c.toNat ≤ 57 := by
    simpa [Char.isDigit, UInt32.le_iff_toNat_le] using h
  have hzero : digitZeros.find? (fun z => z ≤ c.toNat && c.toNat < z + 10) = some 0x30 := by
    rw [digitZeros, List.find?_cons_of_pos]
    simp only [Bool.and_eq_true, decide_eq_true_eq]
    omega
  rw [digitValue?, hzero]
  rfl

theorem digitsValue_eq_ofDigitChars {ds : List Char} (h : ∀ c ∈ ds, c.isDigit) :
    digitsValue ds = Nat.ofDigitChars 10 ds 0 := by
  refine List.foldl_ext _ _ 0 fun n c hc => ?_
  rw [digitValue?_of_isDigit (h c hc), Option.getD_some]

/-- **The digits of a number spell it.** -/
theorem digitsValue_toDigits (k : Nat) : digitsValue (Nat.toDigits 10 k) = k := by
  rw [digitsValue_eq_ofDigitChars fun _ => Numeral.isDigit_of_mem_toDigits,
    Nat.ofDigitChars_ten_toDigits]

theorem isDigit_of_usual {c : Char} (h : c.isDigit) : isDigit c := by
  rw [isDigit, digitValue?_of_isDigit h, Option.isSome_some]

/-- A text without white space has none at its ends. -/
theorem stripBy_eq_self {p : Char → Bool} {s : List Char} (h : ∀ c ∈ s, p c = false) :
    stripBy p s = s := by
  have hdrop : ∀ {t : List Char}, (∀ c ∈ t, p c = false) → t.dropWhile p = t := by
    intro t ht
    cases t with
    | nil => rfl
    | cons c t => exact List.dropWhile_cons_of_neg (by simp [ht c List.mem_cons_self])
  rw [stripBy, dropEndWhile, hdrop h, hdrop fun c hc => h c (List.mem_reverse.1 hc),
    List.reverse_reverse]

end Text

namespace Numeral

open Text

theorem isWhiteSpace_of_isNumeralChar {c : Char} (h : isNumeralChar c) : isWhiteSpace c = false := by
  have hcode : 48 ≤ c.toNat ∧ c.toNat ≤ 57 ∨ c.toNat = 45 := by
    rw [isNumeralChar, Bool.or_eq_true, beq_iff_eq] at h
    refine h.imp (fun hd => ?_) fun hc => congrArg Char.toNat hc
    simpa [Char.isDigit, UInt32.le_iff_toNat_le] using hd
  simp only [isWhiteSpace, Bool.or_eq_false_iff, Bool.and_eq_false_iff, beq_eq_false_iff_ne,
    decide_eq_false_iff_not]
  omega

/-- Without underscores there is nothing to split. -/
theorem splitUnderscores_eq {ds : List Char} (h : '_' ∉ ds) : splitUnderscores ds = (ds, true) := by
  induction ds with
  | nil => rfl
  | cons c ds ih =>
    rw [List.mem_cons, not_or] at h
    rw [splitUnderscores.eq_def]
    split <;> simp_all

/-- A sign and digits are read as what they spell, unless there are too many. -/
theorem readWhole_of_digits {text ds : List Char} {negative : Bool}
    (hstrip : stripBy isWhiteSpace text = (if negative then ['-'] else []) ++ ds)
    (hne : ds ≠ []) (hds : ∀ c ∈ ds, c.isDigit) :
    readWhole text = if maxDigits < ds.length then .error (.tooManyDigits ds.length)
      else .ok (if negative then -(digitsValue ds : Int) else digitsValue ds) := by
  obtain ⟨c, ds, rfl⟩ := List.exists_cons_of_ne_nil hne
  have hnot {x : Char} (hx : x.isDigit = false) : ∀ d ∈ c :: ds, d ≠ x := fun d hd heq => by
    rw [heq.symm, hds d hd] at hx
    cases hx
  have hfirst {x : Char} (hx : x.isDigit = false) : c ≠ x := hnot hx c List.mem_cons_self
  have hrun : (c :: ds).takeWhile (fun x => isDigit x || x == '_') = c :: ds := by
    rw [List.takeWhile_eq_self_iff]
    exact fun x hx => by rw [isDigit_of_usual (hds x hx), Bool.true_or]
  have hunder : '_' ∉ c :: ds := fun hmem => hnot (by decide) _ hmem rfl
  rw [readWhole, hstrip]
  cases negative with
  | true => simp [hrun, splitUnderscores_eq hunder, hfirst]
  | false => simp [hrun, splitUnderscores_eq hunder, hfirst]

/-- **The text of a number reads back, unless it has too many digits.** -/
theorem readWhole_toString (n : Int) : readWhole (toString n).toList =
    if n.natAbs < Nat.pow 10 maxDigits then .ok n
    else .error (.tooManyDigits (Nat.toDigits 10 n.natAbs).length) := by
  have hstrip : stripBy isWhiteSpace (toString n).toList = (toString n).toList :=
    stripBy_eq_self fun c hc => isWhiteSpace_of_isNumeralChar (isNumeralChar_of_mem_toString hc)
  have hlength : (Nat.toDigits 10 n.natAbs).length ≤ maxDigits ↔ n.natAbs < Nat.pow 10 maxDigits := by
    -- the bound is only compared, and so kept from being computed
    have hpos : 0 < maxDigits := by decide
    generalize maxDigits = d at hpos ⊢
    exact Nat.length_toDigits_le_iff (by decide) hpos
  have hspelled : stripBy isWhiteSpace (toString n).toList
      = (if decide (n < 0) then ['-'] else []) ++ Nat.toDigits 10 n.natAbs :=
    hstrip.trans ((toList_toString n).trans (by simp only [decide_eq_true_eq]))
  rw [readWhole_of_digits hspelled (by simp) fun _ => isDigit_of_mem_toDigits, digitsValue_toDigits]
  by_cases hshort : n.natAbs < Nat.pow 10 maxDigits
  · rw [if_pos hshort, if_neg (Nat.not_lt.2 (hlength.2 hshort))]
    simp only [decide_eq_true_eq]
    split <;> exact congrArg _ (by omega)
  · rw [if_neg hshort, if_pos (Nat.not_le.1 (hlength.not.2 hshort))]

end Numeral

end DicePool
