import DicePool.Text.Quoted

/-!
# Number/Numeral — whole numbers in decimal, up to 4300 digits

Numerals longer than `maxDigits` are refused in both directions: a text with more digits is not
read, leading zeros included, and a number with more digits is not written.  `readWhole` is the
liberal reading of a typed number: white space around it, one sign, digits of any script, and single
underscores between digits.
-/

namespace DicePool

/-- Why a number is not converted from or to decimal text. -/
inductive NumeralError where
  /-- The text has this many digits, more than `Numeral.maxDigits`. -/
  | tooManyDigits (count : Nat)
  /-- The number has more than `Numeral.maxDigits` digits. -/
  | tooLargeToWrite
  /-- The text is no whole number. -/
  | notWhole (text : List Char)
deriving DecidableEq, Repr

namespace Numeral

open Text

/-- The greatest number of digits that is read or written. -/
def maxDigits : Nat := 4300

/-- The number that a run of digits spells, unless the run is too long. -/
def ofDigits (ds : List Char) : Except NumeralError Nat :=
  if maxDigits < ds.length then .error (.tooManyDigits ds.length) else .ok (digitsValue ds)

/-- The decimal text of a number that is short enough to be written. -/
def write (n : Int) : Except NumeralError String :=
  if n.natAbs < Nat.pow 10 maxDigits then .ok (toString n) else .error .tooLargeToWrite

theorem write_of_lt {n : Int} (h : n.natAbs < Nat.pow 10 maxDigits) : write n = .ok (toString n) := by
  rw [write, if_pos h]

/-- **A number is written unless it has too many digits.** -/
theorem write_eq_error_iff {n : Int} {e : NumeralError} :
    write n = .error e ↔ Nat.pow 10 maxDigits ≤ n.natAbs ∧ e = .tooLargeToWrite := by
  rcases Nat.lt_or_ge n.natAbs (Nat.pow 10 maxDigits) with h | h
  · rw [write_of_lt h]
    exact iff_of_false (by simp) fun hlong => Nat.not_le.2 h hlong.1
  · rw [write, if_neg (Nat.not_lt.2 h), and_iff_right h, Except.error.injEq, eq_comm]

/-- A number of few enough digits is below the bound. -/
theorem lt_pow_maxDigits {n k : Nat} (h : n < Nat.pow 10 k) (hk : k ≤ maxDigits) :
    n < Nat.pow 10 maxDigits := by
  generalize maxDigits = d at hk ⊢
  exact Nat.lt_of_lt_of_le h (Nat.pow_le_pow_right (by decide) hk)

/-- A run of digits and underscores: the digits, and whether every underscore stands between two
digits. -/
def splitUnderscores : List Char → List Char × Bool
  | [] => ([], true)
  | '_' :: '_' :: rest => ((splitUnderscores rest).1, false)
  | ['_'] => ([], false)
  | '_' :: rest => splitUnderscores rest
  | c :: rest =>
    let (ds, ok) := splitUnderscores rest
    (c :: ds, ok)

/-- Reads a typed whole number.  A run with too many digits is reported as such even if the text
goes on after it, and any other fault as `notWhole`. -/
def readWhole (text : List Char) : Except NumeralError Int :=
  let body := stripBy isWhiteSpace text
  let (negative, rest) := match body with
    | '-' :: r => (true, r)
    | '+' :: r => (false, r)
    | r => (false, r)
  let run := rest.takeWhile fun c => isDigit c || c == '_'
  let (ds, ok) := splitUnderscores run
  if ds.isEmpty || run.head? == some '_' || !ok then .error (.notWhole text)
  else if maxDigits < ds.length then .error (.tooManyDigits ds.length)
  else if run.length < rest.length then .error (.notWhole text)
  else .ok (if negative then -(digitsValue ds : Int) else digitsValue ds)

end Numeral

/-- The text of the fault. -/
def NumeralError.message : NumeralError → String
  | .tooManyDigits count =>
    s!"Exceeds the limit (4300 digits) for integer string conversion: value has {count} digits; "
      ++ "use sys.set_int_max_str_digits() to increase the limit"
  | .tooLargeToWrite =>
    "Exceeds the limit (4300 digits) for integer string conversion; "
      ++ "use sys.set_int_max_str_digits() to increase the limit"
  | .notWhole text =>
    "invalid literal for int() with base 10: " ++ String.ofList ((Text.quoted text).take 200)

end DicePool
