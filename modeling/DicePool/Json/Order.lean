import DicePool.Json.Basic

/-!
# Json/Order — numbers among JSON values, and which values can be compared

Whole and fractional numbers and truth values are all numbers, true counting as one; they compare by
what they count.  Strings compare by code points, and lists item by item.  No other pair of values
can be compared.
-/

namespace DicePool.Json

/-- The word for the kind of a value. -/
def kind : Json → String
  | .null => "NoneType"
  | .bool _ => "bool"
  | .int _ => "int"
  | .float _ => "float"
  | .str _ => "str"
  | .arr _ => "list"
  | .obj _ => "dict"

/-- What a number counts. -/
inductive Magnitude where
  /-- A quotient of whole numbers. -/
  | finite (q : Number.Quotient)
  /-- More than every number, or less if negative. -/
  | infinite (negative : Bool)
  /-- No number; it compares with nothing. -/
  | undefined

/-- What a value counts, if it is a number. -/
def magnitude? : Json → Option Magnitude
  | .bool b => some (.finite (if b then 1 else 0, 1))
  | .int n => some (.finite (n, 1))
  | .float x =>
    if x.isNaN then some .undefined
    else if x.isInf then some (.infinite (x < 0))
    else some (.finite (Number.Exact.ofBits x.toBits).quotient)
  | _ => none

/-- Whether one number is at most another. -/
def Magnitude.le : Magnitude → Magnitude → Bool
  | .undefined, _ => false
  | _, .undefined => false
  | .infinite true, _ => true
  | _, .infinite true => false
  | _, .infinite false => true
  | .infinite false, _ => false
  | .finite a, .finite b => a.le b

/-- Whether the value is the number `n`, in whatever spelling. -/
def isNumber (n : Int) (v : Json) : Bool :=
  match v.magnitude? with
  | some (.finite (num, den)) => num == n * den
  | _ => false

theorem isNumber_int (n m : Int) : (Json.int n).isNumber m = decide (n = m) := by
  simp [isNumber, magnitude?]
  grind

/-- Whether two numbers are equal. -/
def Magnitude.same (x y : Magnitude) : Bool :=
  x.le y && y.le x

mutual

/-- Whether two values are equal: numbers by what they count, objects whatever the order of their
names. -/
def same : Json → Json → Bool
  | .null, .null => true
  | .str s, .str t => s == t
  | .arr xs, .arr ys => sameItems xs ys
  | .obj fs, .obj gs => fs.length == gs.length && sameFields fs gs
  | a, b => match a.magnitude?, b.magnitude? with
    | some x, some y => x.same y
    | _, _ => false

/-- Whether two lists have equal items. -/
def sameItems : List Json → List Json → Bool
  | [], [] => true
  | x :: xs, y :: ys => same x y && sameItems xs ys
  | _, _ => false

/-- Whether each named value has an equal one of its name in another list. -/
def sameFields : List (String × Json) → List (String × Json) → Bool
  | [], _ => true
  | (name, v) :: rest, others => (match Named.get? others name with
      | some w => same v w
      | none => false) && sameFields rest others

end

/-- A way to compare two values. -/
inductive Comparison where
  /-- The first is at most the second. -/
  | atMost
  /-- The first is at least the second. -/
  | atLeast
  /-- The first is more than the second. -/
  | above
deriving DecidableEq, Repr

namespace Comparison

/-- The sign of a comparison. -/
def sign : Comparison → String
  | .atMost => "<="
  | .atLeast => ">="
  | .above => ">"

/-- Whether a comparison holds, given whether the first value is at most the second, and whether it is at
least the second; neither is the case for a value that compares with nothing. -/
def holds (c : Comparison) (isAtMost isAtLeast : Bool) : Bool :=
  match c with
  | .atMost => isAtMost
  | .atLeast => isAtLeast
  | .above => isAtLeast && !isAtMost

end Comparison

/-- Two values that cannot be compared, by their kinds. -/
structure Incomparable where
  /-- How they are compared. -/
  comparison : Comparison
  /-- The kind on the left. -/
  left : String
  /-- The kind on the right. -/
  right : String
deriving DecidableEq, Repr

/-- The text of the failure. -/
def Incomparable.message (e : Incomparable) : String :=
  s!"'{e.comparison.sign}' not supported between instances of '{e.left}' and '{e.right}'"

mutual

/-- Whether the first value is at most the second, and whether it is at least the second; values that
cannot be compared are told by their kinds. -/
def order? : Json → Json → Except (String × String) (Bool × Bool)
  | .str s, .str t => .ok (s ≤ t, t ≤ s)
  | .arr xs, .arr ys => itemsOrder? xs ys
  | a, b => match a.magnitude?, b.magnitude? with
    | some x, some y => .ok (x.le y, y.le x)
    | _, _ => .error (a.kind, b.kind)

/-- The same for lists: the first items that are not equal decide, and a list comes before its
continuations. -/
def itemsOrder? : List Json → List Json → Except (String × String) (Bool × Bool)
  | [], ys => .ok (true, ys.isEmpty)
  | _ :: _, [] => .ok (false, true)
  | x :: xs, y :: ys => if same x y then itemsOrder? xs ys else order? x y

end

/-- Whether a comparison of two values holds. -/
def compare? (c : Comparison) (a b : Json) : Except Incomparable Bool :=
  match order? a b with
  | .ok (isAtMost, isAtLeast) => .ok (c.holds isAtMost isAtLeast)
  | .error (left, right) => .error ⟨c, left, right⟩

/-- Whole numbers compare as they should. -/
theorem compare?_int (c : Comparison) (a b : Int) :
    (Json.int a).compare? c (.int b) = .ok (c.holds (a ≤ b) (b ≤ a)) := by
  simp [compare?, order?, magnitude?, Magnitude.le, Number.Quotient.le]

end DicePool.Json
