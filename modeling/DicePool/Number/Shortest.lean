import DicePool.Number.Exact

/-!
# Number/Shortest — the shortest decimal that reads back

A finite double is `m * 2 ^ q` (`Exact`).  The reals that round to it form an interval, ends included exactly
when `m` is even.  `shortest` looks for a decimal with one digit in that interval, then with two
digits, and so on; on each grid only the two neighbours of the value can be the nearest hit, so
seventeen rounds of exact arithmetic settle it.

A `Layout` says how the digits found are written: positionally while the decimal point falls within sixteen
digits and few zeros follow it, otherwise with an exponent.
-/

namespace DicePool.Number

/-- How often a positive fraction below one must be multiplied by ten to reach one. -/
def leadingZeros : Nat → Nat → Nat → Nat
  | 0, _, _ => 0
  | fuel + 1, num, den => if den ≤ num then 0 else leadingZeros fuel (10 * num) den + 1

/-- The decimal exponent of the first digit of the positive fraction `num / den`. -/
def firstDigitExponent (num den : Nat) : Int :=
  if den ≤ num then ((toString (num / den)).length : Int) - 1
  else -(leadingZeros 400 num den : Int)

/-- A positive decimal: `digits * 10 ^ exponent`. -/
structure Decimal where
  /-- The digits as a whole number. -/
  digits : Nat
  /-- The power of ten. -/
  exponent : Int

/-- The nearest decimal with `count` digits that reads back, if any does. -/
def Exact.onGrid? (x : Exact) (count : Nat) : Option Decimal :=
  -- a quarter of the spacing is the unit: the value is `4 * mantissa` of them
  let unit := x.exponent - 2
  let num := if 0 ≤ unit then Nat.pow 2 unit.toNat else 1
  let den := if 0 ≤ unit then 1 else Nat.pow 2 (-unit).toNat
  let value := 4 * x.mantissa
  let low := if x.narrowBelow then value - 1 else value - 2
  let high := value + 2
  let grid := firstDigitExponent (value * num) den - (count - 1 : Int)
  let up := if 0 ≤ grid then Nat.pow 10 grid.toNat else 1
  let down := if 0 ≤ grid then 1 else Nat.pow 10 (-grid).toNat
  -- the candidate `d` is worth `d * up / down`, and a bound `b` is worth `b * num / den`
  let below := value * num * down / (den * up)
  let reads (d : Nat) : Bool :=
    let lhs := d * up * den
    if x.mantissa % 2 == 0 then low * num * down ≤ lhs && lhs ≤ high * num * down
    else low * num * down < lhs && lhs < high * num * down
  let exact := value * num * down
  let away (d : Nat) : Nat :=
    let lhs := d * up * den
    if lhs ≤ exact then exact - lhs else lhs - exact
  match reads below, reads (below + 1) with
  | true, true =>
    -- a tie goes to the even neighbour
    let goesUp := away (below + 1) < away below
      || (away (below + 1) == away below && below % 2 == 1)
    some ⟨if goesUp then below + 1 else below, grid⟩
  | true, false => some ⟨below, grid⟩
  | false, true => some ⟨below + 1, grid⟩
  | false, false => none

/-- The shortest decimal that reads back to a positive double. -/
def Exact.shortest (x : Exact) : Decimal :=
  ((List.range 17).findSome? fun i => x.onGrid? (i + 1)).getD ⟨0, 0⟩

/-- How a decimal is laid out. -/
structure Layout where
  /-- How many zeros may follow the point before the first digit. -/
  mostZeros : Nat
  /-- Whether an exponent has a sign in any case, and at least two digits. -/
  isPadded : Bool

/-- The usual layout: at most three zeros, and an exponent such as `e+07`. -/
def Layout.usual : Layout := ⟨3, true⟩

/-- The terse layout: at most four zeros, and an exponent such as `e7`. -/
def Layout.terse : Layout := ⟨4, false⟩

/-- The text of an exponent. -/
def Layout.exponentText (l : Layout) (e : Int) : String :=
  let digits := toString e.natAbs
  let sign := if e < 0 then "-" else if l.isPadded then "+" else ""
  "e" ++ sign ++ (if l.isPadded && digits.length < 2 then "0" ++ digits else digits)

/-- The text of a positive decimal. -/
def Layout.write (l : Layout) (d : Decimal) : String :=
  let all := (toString d.digits).toList
  let kept := (all.reverse.dropWhile (· == '0')).reverse
  let point : Int := all.length + d.exponent
  if point < -(l.mostZeros : Int) || 16 < point then
    let tail := kept.drop 1
    String.ofList (kept.take 1) ++ (if tail.isEmpty then "" else "." ++ String.ofList tail)
      ++ l.exponentText (point - 1)
  else if point ≤ 0 then
    "0." ++ String.ofList (List.replicate (-point).toNat '0' ++ kept)
  else
    let whole := kept.take point.toNat
    let padded := whole ++ List.replicate (point.toNat - whole.length) '0'
    let tail := kept.drop point.toNat
    String.ofList padded ++ "." ++ (if tail.isEmpty then "0" else String.ofList tail)

/-- The shortest text that reads back to the double. -/
def Layout.text (l : Layout) (x : Float) : String :=
  if x.isNaN then "nan"
  else if x.isInf then (if x < 0 then "-inf" else "inf")
  else
    let e := Exact.ofBits x.toBits
    (if e.negative then "-" else "") ++ (if e.mantissa == 0 then "0.0" else l.write e.shortest)

/-- The double nearest to `digits * 10 ^ exponent`. -/
def ofDecimal (digits : Nat) (exponent : Int) : Float :=
  let size : Int := (toString digits).length + exponent
  if digits == 0 || size < -330 then 0.0
  else if 310 < size then 1.0 / 0.0
  else Float.ofScientific digits (exponent < 0) exponent.natAbs

end DicePool.Number
