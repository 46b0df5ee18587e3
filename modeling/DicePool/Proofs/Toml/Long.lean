import DicePool.Toml.Document
import Mathlib.Data.List.Basic

/-!
# Proofs/Toml/Long — a number that is too long makes a text unreadable

A whole number is read as one run of digits, and a run that is too long is refused (`value_nines`). A value
that is refused takes the whole text with it, whatever else the text may hold
(`Document.statement_eq_error`, `parse_maxPool_nines`).
-/

namespace DicePool.Toml

variable {s ds : List Char} {n : Nat}

theorem plainLineEnds_eq_self (h : '\r' ∉ s) : plainLineEnds s = s := by
  induction s with
  | nil => rfl
  | cons c s ih =>
    rw [List.mem_cons, not_or] at h
    rw [plainLineEnds, ih h.2]
    rintro rest rfl
    exact absurd rfl h.1

theorem digits_eq_self (h : ∀ c ∈ ds, c.isDigit) : digits Char.isDigit ds = (ds, []) := by
  induction ds with
  | nil => rfl
  | cons c ds ih =>
    rw [List.forall_mem_cons] at h
    have hc : c ≠ '_' := by rintro rfl; exact absurd h.1 (by decide)
    rw [digits]
    · rw [if_pos h.1, ih h.2]
    · rintro d rest rfl
      exact absurd rfl hc

/-- Five nines or more. -/
def nines (n : Nat) : List Char :=
  List.replicate (n + 5) '9'

theorem isDigit_of_mem_nines : ∀ c ∈ nines n, c.isDigit := fun c hc => by
  rw [List.eq_of_mem_replicate hc]
  rfl

theorem decimal?_nines (h : Numeral.maxDigits < n + 5) :
    decimal? (nines n) = some (.error (.numeral (.tooManyDigits (n + 5)))) := by
  have hwhole : integerPart? (nines n) = some (nines n, []) :=
    congrArg some (digits_eq_self isDigit_of_mem_nines)
  have hlength : (nines n).length = n + 5 := List.length_replicate
  have hread : Numeral.ofDigits (nines n) = .error (.tooManyDigits (n + 5)) := by
    rw [Numeral.ofDigits, hlength, if_pos h]
  change (integerPart? (nines n) >>= _) = _
  rw [hwhole]
  simp [fractionPart, exponentPart?, hread]

/-- **A number of too many nines is refused.** -/
theorem value_nines (h : Numeral.maxDigits < n + 5) (fuel : Nat) :
    value (fuel + 1) (nines n) = .error (.numeral (.tooManyDigits (n + 5))) := by
  have hfront : nines n = '9' :: '9' :: '9' :: '9' :: '9' :: List.replicate n '9' := rfl
  have hstring : string? (nines n) = none := rfl
  have hmoment : moment? (nines n) = none := rfl
  have hnumber : number? (nines n) = decimal? (nines n) := rfl
  rw [decimal?_nines h] at hnumber
  rw [hfront] at hstring hmoment hnumber ⊢
  simp [value, hstring, hmoment, hnumber]

/-- **A line with a key defines the value behind it.** -/
theorem Document.statement_of_key {d : Document} {c : Char} {rest : List Char} {path : List String}
    (hc : isBareKeyChar c) (hkey : key ((c :: s).length + 1) (c :: s) = .ok (path, '=' :: rest)) :
    d.statement (c :: s) = value (2 * (c :: s).length + 2) (skipSpace rest) >>= fun r =>
      (d.define path r.1).map fun d => (d, r.2) := by
  have hbracket : c ≠ '[' := by rintro rfl; exact absurd hc (by decide)
  unfold Document.statement
  split
  next heq => exact absurd (List.cons.inj heq).1 hbracket
  next heq => exact absurd (List.cons.inj heq).1 hbracket
  next heq =>
    obtain ⟨rfl, rfl⟩ := List.cons.inj heq
    rw [hc, Bool.true_or, Bool.true_or, if_pos rfl, hkey]
    change (value _ (skipSpace rest) >>= _) = _
    refine congrArg (value _ (skipSpace rest) >>= ·) (funext fun ⟨v, rest⟩ => ?_)
    change (d.define path v >>= _) = _
    cases d.define path v <;> rfl
  next heq => cases heq

/-- A line is refused for its value. -/
theorem Document.statement_eq_error {d : Document} {c : Char} {rest : List Char} {path : List String}
    {e : Fault} (hc : isBareKeyChar c)
    (hkey : key ((c :: s).length + 1) (c :: s) = .ok (path, '=' :: rest))
    (hvalue : value (2 * (c :: s).length + 2) (skipSpace rest) = .error e) :
    d.statement (c :: s) = .error e := by
  rw [statement_of_key hc hkey, hvalue]
  rfl

/-- **A limit of too many nines makes the text unreadable.** -/
theorem parse_maxPool_nines (h : Numeral.maxDigits < n + 5) :
    parse ("dice.max_pool = ".toList ++ nines n) = .error (.numeral (.tooManyDigits (n + 5))) := by
  have hplain : '\r' ∉ "dice.max_pool = ".toList ++ nines n := by
    rw [List.mem_append, not_or]
    exact ⟨by decide, fun hmem => absurd (isDigit_of_mem_nines _ hmem) (by decide)⟩
  have hline : Document.statement {} ('d' :: ("ice.max_pool = ".toList ++ nines n))
      = .error (.numeral (.tooManyDigits (n + 5))) := by
    have hkey : key (('d' :: ("ice.max_pool = ".toList ++ nines n)).length + 1)
        ('d' :: ("ice.max_pool = ".toList ++ nines n))
          = .ok (["dice", "max_pool"], '=' :: ' ' :: nines n) := rfl
    have hskip : skipSpace (' ' :: nines n) = nines n := rfl
    refine Document.statement_eq_error rfl hkey ?_
    rw [hskip]
    exact value_nines h _
  have hfront : skipSpace ("dice.max_pool = ".toList ++ nines n)
      = 'd' :: ("ice.max_pool = ".toList ++ nines n) := rfl
  rw [parse, plainLineEnds_eq_self hplain, Document.lines, hfront, hline]
  rfl

end DicePool.Toml
