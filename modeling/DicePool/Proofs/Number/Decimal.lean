import DicePool.Number.Numeral
import DicePool.Proofs.Text.Runs

/-!
# Proofs/Number/Decimal — numerals can be told apart, and from what follows them

The decimal text of a whole number is made of digits, with a sign in front of a negative one. So two
texts that begin with numerals, and go on with something else, have the same beginning and the same
rest if they are the same (`toString_append_inj`).
-/

namespace DicePool

namespace Numeral

/-- The characters of numerals. -/
def isNumeralChar (c : Char) : Bool :=
  c.isDigit || c == '-'

theorem isNumeralChar_of_isDigit {c : Char} (h : c.isDigit) : isNumeralChar c := by
  rw [isNumeralChar, h, Bool.true_or]

theorem isDigit_of_mem_toDigits {k : Nat} {c : Char} (h : c ∈ Nat.toDigits 10 k) : c.isDigit :=
  Nat.isDigit_of_mem_toDigits (by decide) (by decide) h

/-- Digits determine their number. -/
theorem toDigits_injective {j k : Nat} (h : Nat.toDigits 10 j = Nat.toDigits 10 k) : j = k := by
  rw [← Nat.ofDigitChars_ten_toDigits (n := j), h, Nat.ofDigitChars_ten_toDigits]

/-- The text of a whole number: its sign, if it is negative, and its digits. -/
theorem toList_toString (n : Int) :
    (toString n).toList = (if n < 0 then ['-'] else []) ++ Nat.toDigits 10 n.natAbs := by
  have hdigits : ∀ k : Nat, k.repr.toList = Nat.toDigits 10 k := fun k => by
    rw [Nat.repr_eq_ofList_toDigits, String.toList_ofList]
  cases n with
  | ofNat k => exact hdigits k
  | negSucc k =>
    rw [if_pos (Int.negSucc_lt_zero k), Int.natAbs_negSucc]
    change ("-" ++ (k + 1).repr).toList = _
    rw [String.toList_append, hdigits]
    rfl

theorem isNumeralChar_of_mem_toString {n : Int} {c : Char} (h : c ∈ (toString n).toList) :
    isNumeralChar c := by
  rw [toList_toString, List.mem_append] at h
  rcases h with h | h
  · split at h
    · rw [List.mem_singleton.1 h]
      decide
    · cases h
  · exact isNumeralChar_of_isDigit (isDigit_of_mem_toDigits h)

theorem toString_ne_nil (n : Int) : (toString n).toList ≠ [] := by
  rw [toList_toString]
  simp

/-- **Different numbers have different texts.** -/
theorem toString_injective {m n : Int} (h : (toString m).toList = (toString n).toList) : m = n := by
  have hsign : ∀ {k : Nat}, '-' ∉ Nat.toDigits 10 k := fun hc =>
    absurd (isDigit_of_mem_toDigits hc) (by decide)
  rw [toList_toString, toList_toString] at h
  split at h <;> split at h
  · have := toDigits_injective (List.cons.inj h).2
    omega
  · rw [List.nil_append] at h
    exact absurd (by rw [← h]; exact List.mem_cons_self) hsign
  · rw [List.nil_append] at h
    exact absurd (by rw [h]; exact List.mem_cons_self) hsign
  · have := toDigits_injective h
    omega

/-- **A numeral determines its number**, and where it ends. -/
theorem toString_append_inj {m n : Int} {x y : List Char} (hx : ∀ c ∈ x.head?, ¬isNumeralChar c)
    (hy : ∀ c ∈ y.head?, ¬isNumeralChar c)
    (h : (toString m).toList ++ x = (toString n).toList ++ y) : m = n ∧ x = y := by
  obtain ⟨hmn, hxy⟩ := append_inj_of_runs (fun _ => isNumeralChar_of_mem_toString)
    (fun _ => isNumeralChar_of_mem_toString) hx hy h
  exact ⟨toString_injective hmn, hxy⟩

theorem toString_of_write {n : Int} {w : String} (h : write n = .ok w) : w = toString n := by
  unfold write at h
  split at h
  · exact (Except.ok.inj h).symm
  · cases h

end Numeral

end DicePool
