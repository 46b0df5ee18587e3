import DicePool.Text.Case.Table
import DicePool.Text.Printable

/-!
# Text/Case — full lower and upper case

Case mapping is that of Unicode 14 without locales.  Lower case maps one character to one, apart
from `İ`, which becomes `i` and a dot above, and the capital sigma, which becomes `ς` at the end of
a word and `σ` elsewhere.  Upper case may lengthen a text: `ß` becomes `SS`.

A sigma ends a word when, skipping marks and apostrophes, a cased letter stands before it and none
after it.
-/

namespace DicePool.Text

/-- Moves a code point by the row of the table that holds it. -/
def Case.shift (runs : Array (Nat × Nat × Nat × Int)) (c : Char) : Char :=
  match runs.find? fun (first, last, step, _) =>
      first ≤ c.toNat && c.toNat ≤ last && (c.toNat - first) % step == 0 with
  | some (_, _, _, delta) => Char.ofNat (c.toNat + delta).toNat
  | none => c

/-- Whether the final sigma rule skips the character. -/
def Case.isIgnorable (c : Char) : Bool :=
  inRanges Case.ignorableRanges c.toNat

/-- Whether a cased letter comes first once skipped characters are dropped. -/
def Case.startsCased (s : List Char) : Bool :=
  match s.dropWhile Case.isIgnorable with
  | [] => false
  | c :: _ => inRanges Case.casedRanges c.toNat

/-- The lower case of one character between the text before it, read backwards, and the text after
it. -/
def lowerChar (before : List Char) (c : Char) (after : List Char) : List Char :=
  if c.toNat < 0x80 then [if 'A' ≤ c && c ≤ 'Z' then Char.ofNat (c.toNat + 32) else c]
  else if c == 'İ' then ['i', '\u0307']
  else if c == 'Σ' then
    [if Case.startsCased before && !Case.startsCased after then 'ς' else 'σ']
  else [Case.shift Case.lowerRuns c]

/-- The text in lower case. -/
def lower (s : List Char) : List Char :=
  go [] s
where
  /-- Maps the rest of the text, given what stands before it, read backwards. -/
  go (before : List Char) : List Char → List Char
    | [] => []
    | c :: after => lowerChar before c after ++ go (c :: before) after

/-- The upper case of one character. -/
def upperChar (c : Char) : List Char :=
  if c.toNat < 0x80 then [if 'a' ≤ c && c ≤ 'z' then Char.ofNat (c.toNat - 32) else c]
  else match Case.upperExpansions.find? fun (n, _) => n == c.toNat with
    | some (_, cs) => cs.map Char.ofNat
    | none => [Case.shift Case.upperRuns c]

/-- The text in upper case. -/
def upper (s : List Char) : List Char :=
  s.flatMap upperChar

end DicePool.Text
