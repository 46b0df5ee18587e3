import DicePool.Json.Basic
import DicePool.Number.Numeral

/-!
# Dice/Face — what a source of dice hands out

A face is a value that a source returns.  A die takes whole numbers, and a truth value passes for one:
true counts as one and false as zero, but each keeps its own spelling.  Any other value is foreign to
dice, and so is a number outside one to ten.
-/

namespace DicePool

/-- A whole number or a truth value that passes for one. -/
inductive Pips where
  /-- A whole number. -/
  | number (n : Int)
  /-- A truth value. -/
  | truth (b : Bool)
deriving DecidableEq, Repr

namespace Pips

/-- The number that it counts as. -/
def count : Pips → Int
  | .number n => n
  | .truth b => if b then 1 else 0

/-- The number or truth value as JSON. -/
def toJson : Pips → Json
  | .number n => .int n
  | .truth b => .bool b

/-- The text shown for it; a number that is too long has none. -/
def text : Pips → Except NumeralError String
  | .number n => Numeral.write n
  | .truth b => .ok (if b then "True" else "False")

/-- A number of few enough digits can be shown. -/
theorem exists_text_of_lt {p : Pips} (h : p.count.natAbs < Nat.pow 10 Numeral.maxDigits) :
    ∃ shown, p.text = .ok shown := by
  cases p with
  | number n => exact ⟨_, Numeral.write_of_lt h⟩
  | truth b => exact ⟨_, rfl⟩

end Pips

/-- A value handed out by a source of dice. -/
inductive Face where
  /-- A number. -/
  | pips (p : Pips)
  /-- A value that no die shows. -/
  | foreign (v : Json)

namespace Face

/-- The face that a JSON value is. -/
def ofJson : Json → Face
  | .int n => .pips (.number n)
  | .bool b => .pips (.truth b)
  | v => .foreign v

/-- The face as JSON. -/
def toJson : Face → Json
  | .pips p => p.toJson
  | .foreign v => v

/-- The number of a ten-sided die, if the face is one. -/
def valid? : Face → Option Pips
  | .pips p => if 1 ≤ p.count ∧ p.count ≤ 10 then some p else none
  | .foreign _ => none

/-- **A valid face counts between one and ten.** -/
theorem valid?_eq_some_iff {f : Face} {p : Pips} :
    f.valid? = some p ↔ f = .pips p ∧ 1 ≤ p.count ∧ p.count ≤ 10 := by
  cases f with
  | pips q =>
    simp only [valid?]
    split <;> simp_all <;> grind
  | foreign v => simp [valid?]

end Face

end DicePool
