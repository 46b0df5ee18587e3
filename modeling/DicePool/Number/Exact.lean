/-!
# Number/Exact — doubles as whole numbers

A finite double is a whole number times a power of two.  Comparing it with a whole number and cutting
off its fraction are then questions about whole numbers.
-/

namespace DicePool.Number

/-- A finite double in exact form: `(-1) ^ negative * mantissa * 2 ^ exponent`. -/
structure Exact where
  /-- Whether the sign bit is set. -/
  negative : Bool
  /-- The significand as a whole number. -/
  mantissa : Nat
  /-- The power of two. -/
  exponent : Int
  /-- Whether the double below is only half as far away as the double above. -/
  narrowBelow : Bool

/-- The exact value of a finite double. -/
def Exact.ofBits (bits : UInt64) : Exact :=
  let n := bits.toNat
  let fraction := n % Nat.pow 2 52
  let biased := n / Nat.pow 2 52 % Nat.pow 2 11
  { negative := n / Nat.pow 2 63 == 1
    mantissa := if biased == 0 then fraction else Nat.pow 2 52 + fraction
    exponent := if biased == 0 then -1074 else Int.ofNat biased - 1075
    narrowBelow := fraction == 0 && 1 < biased }

namespace Exact

/-- The double `x`, which has to be finite, as a quotient of whole numbers. -/
def quotient (x : Exact) : Int × Nat :=
  let scaled : Int := x.mantissa * Nat.pow 2 x.exponent.toNat
  (if x.negative then -scaled else scaled, Nat.pow 2 (-x.exponent).toNat)

/-- The whole number next to the double on the side of zero. -/
def truncate (x : Exact) : Int :=
  let (num, den) := x.quotient
  num.tdiv den

/-- Whether the double has no fraction. -/
def isWhole (x : Exact) : Bool :=
  let (num, den) := x.quotient
  num % den == 0

end Exact

/-- A number as a quotient of whole numbers. -/
abbrev Quotient := Int × Nat

/-- Whether one quotient is at most another, for positive denominators. -/
def Quotient.le (a b : Quotient) : Bool :=
  a.1 * b.2 ≤ b.1 * a.2

end DicePool.Number
