/-!
# Text/Punycode — any characters in ASCII

The ASCII characters of a text come first, and behind a hyphen it is told which others are to be put in
and where: in the order of their code points, each by the number of places and code points that are
passed over since the one before.  These numbers are written in base 36 with the lowest digit first.
How large a last digit may be depends on the place of the digit and on a bias, which follows the numbers
so far.
-/

namespace DicePool.Text.Punycode

/-- The letter or digit for a number below 36. -/
def digit (n : Nat) : Char :=
  if n < 26 then Char.ofNat (97 + n) else Char.ofNat (22 + n)

/-- The number that a letter or digit stands for. -/
def digitValue? (c : Char) : Option Nat :=
  if c.isLower then some (c.toNat - 97)
  else if c.isUpper then some (c.toNat - 65)
  else if c.isDigit then some (c.toNat - 22)
  else none

/-- The threshold below which a digit is the last, for the digit at a place; places are 36 apart. -/
def threshold (place bias : Nat) : Nat :=
  min 26 (max 1 (place - bias))

/-- The bias at the start. -/
def startBias : Nat := 72

/-- A number divided until it is small, and 36 for each division. -/
def shrink (n : Nat) : Nat × Nat :=
  if 455 < n then
    let (m, k) := shrink (n / 35)
    (m, k + 36)
  else (n, 0)
termination_by n

/-- The bias after a number, when `count` characters are there. -/
def adapt (delta : Nat) (isFirst : Bool) (count : Nat) : Nat :=
  let half := if isFirst then delta / 700 else delta / 2
  let (n, k) := shrink (half + half / count)
  k + 36 * n / (n + 38)

theorem threshold_pos (place bias : Nat) : 0 < threshold place bias := by
  simp only [threshold]
  omega

/-! ## Writing -/

/-- The digits of a number, from a place on. -/
def digits (bias place n : Nat) : List Char :=
  let t := threshold place bias
  if n < t then [digit n]
  else digit (t + (n - t) % (36 - t)) :: digits bias (place + 36) ((n - t) / (36 - t))
termination_by n
decreasing_by
  have h := threshold_pos place bias
  exact Nat.lt_of_le_of_lt (Nat.div_le_self _ _) (by omega)

/-- What is written so far. -/
structure Writer where
  /-- The digits. -/
  out : List Char
  /-- What is passed over since the last character. -/
  delta : Nat
  /-- The bias. -/
  bias : Nat
  /-- How many characters are there. -/
  count : Nat
  /-- Whether no number is written yet. -/
  isFirst : Bool := true

/-- Passes over a character of the text, or writes it if it is the one that is put in now. -/
def Writer.step (code : Nat) (w : Writer) (c : Char) : Writer :=
  if c.toNat < code then { w with delta := w.delta + 1 }
  else if c.toNat = code then
    { out := w.out ++ digits w.bias 36 w.delta, delta := 0, count := w.count + 1,
      bias := adapt w.delta w.isFirst (w.count + 1), isFirst := false }
  else w

/-- Writes the characters of these codes, in order, after those below `next`. -/
def Writer.run (text : List Char) : Nat → List Nat → Writer → Writer
  | _, [], w => w
  | next, code :: rest, w =>
    let w := { w with delta := w.delta + (code - next) * (w.count + 1) }
    let w := text.foldl (step code) w
    run text (code + 1) rest { w with delta := w.delta + 1 }

/-- A text in ASCII. -/
def encode (text : List Char) : List Char :=
  let plain := text.filter (·.toNat < 128)
  let codes := (((text.filter (128 ≤ ·.toNat)).map Char.toNat).mergeSort fun a b => a ≤ b).eraseDups
  let start : Writer := { out := [], delta := 0, bias := startBias, count := plain.length }
  (if plain.isEmpty then [] else plain ++ ['-']) ++ (Writer.run text 128 codes start).out

/-! ## Reading -/

/-- A number in front of a text, and what follows it. -/
def number? (bias : Nat) : (place weight value : Nat) → List Char → Option (Nat × List Char)
  | _, _, _, [] => none
  | place, weight, value, c :: rest => do
    let d ← digitValue? c
    let t := threshold place bias
    let value := value + d * weight
    if d < t then return (value, rest) else number? bias (place + 36) (weight * (36 - t)) value rest

/-- Puts characters into a text, the next one not before the place `index` and the code `code`; `fuel`
bounds the numbers. -/
def insertAll? (fuel : Nat) (isFirst : Bool) (bias index code : Nat) (text digits : List Char) :
    Option (List Char) :=
  match fuel, digits with
  | _, [] => some text
  | 0, _ => none
  | fuel + 1, digits => do
    let (delta, rest) ← number? bias 36 1 0 digits
    let count := text.length + 1
    let code := code + (index + delta) / count
    let place := (index + delta) % count
    if h : code.isValidChar then
      let c := Char.ofNatAux code h
      insertAll? fuel false (adapt delta isFirst count) (place + 1) code
        (text.take place ++ c :: text.drop place) rest
    else none

/-- The text that ASCII characters spell. -/
def decode? (s : List Char) : Option (List Char) :=
  let back := s.reverse
  let digits := (back.takeWhile (· != '-')).reverse
  let plain := (back.dropWhile (· != '-')).drop 1
  insertAll? s.length true startBias 0 128 plain.reverse digits

end DicePool.Text.Punycode
