import DicePool.Number.Shortest

/-!
# Number/Places — numbers to so many places

A number is written with a fixed number of digits behind the point, or as one digit with so many behind
the point and an exponent, or in whichever of these two ways suits its size.  The digits are those of
the exact value rounded to the nearest, and where two are as near, to the even one.
-/

namespace DicePool.Number

/-- The whole number that is nearest to a quotient; of two that are as near, the even one. -/
def nearest (num den : Nat) : Nat :=
  let below := num / den
  let twice := 2 * (num % den)
  if twice < den || (twice == den && below % 2 == 0) then below else below + 1

/-- A point and digits, where the point may be kept though no digits follow it. -/
def pointed (keepsPoint : Bool) (digits : List Char) : List Char :=
  if digits.isEmpty && !keepsPoint then [] else '.' :: digits

/-- A number in decimal, filled up to `count` digits with zeros in front. -/
def padded (count n : Nat) : List Char :=
  let ds := (toString n).toList
  List.replicate (count - ds.length) '0' ++ ds

/-- The quotient with `places` digits behind the point. -/
def fixedText (keepsPoint : Bool) (places num den : Nat) : List Char :=
  let ds := padded (places + 1) (nearest (num * Nat.pow 10 places) den)
  ds.take (ds.length - places) ++ pointed keepsPoint (ds.drop (ds.length - places))

/-- The first digits of a positive quotient as a whole number, `places + 1` of them, and the exponent of the
first. -/
def firstDigits (places num den : Nat) : Nat × Int :=
  let e := firstDigitExponent num den
  let shift := (places : Int) - e
  let n := nearest (num * Nat.pow 10 shift.toNat) (den * Nat.pow 10 (-shift).toNat)
  if n < Nat.pow 10 (places + 1) then (n, e) else (n / 10, e + 1)

/-- The first digits of a quotient, with zeros for zero. -/
def digitsOf (places num den : Nat) : List Char × Int :=
  if num = 0 then (List.replicate (places + 1) '0', 0)
  else
    let (n, e) := firstDigits places num den
    (padded (places + 1) n, e)

/-- The quotient as one digit with `places` behind the point and an exponent. -/
def exponentialText (keepsPoint : Bool) (places num den : Nat) : List Char :=
  let (ds, e) := digitsOf places num den
  ds.take 1 ++ pointed keepsPoint (ds.drop 1) ++ (Layout.usual.exponentText e).toList

/-- The digits without zeros at their end. -/
def dropLastZeros (ds : List Char) : List Char :=
  (ds.reverse.dropWhile (· == '0')).reverse

/-- The quotient with `count` digits, at least one, positionally if its exponent is from `-4` to below
`count`.  Zeros at the end are kept only with the point. -/
def generalText (keepsPoint : Bool) (count num den : Nat) : List Char :=
  let places := max count 1 - 1
  let (ds, e) := digitsOf places num den
  let trim (ds : List Char) : List Char := if keepsPoint then ds else dropLastZeros ds
  if e < -4 || (places : Int) < e then
    ds.take 1 ++ pointed keepsPoint (trim (ds.drop 1)) ++ (Layout.usual.exponentText e).toList
  else if e < 0 then
    '0' :: pointed keepsPoint (trim (List.replicate (-e - 1).toNat '0' ++ ds))
  else ds.take (e.toNat + 1) ++ pointed keepsPoint (trim (ds.drop (e.toNat + 1)))

end DicePool.Number
