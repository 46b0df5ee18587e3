import DicePool.Text.Composed.Table
import DicePool.Text.Printable

/-!
# Text/Composed — texts whose marks are in order and written together with their letters

A text is composed if no character of it is always written as another, the marks behind a letter are
ordered by where they stand, and no letter could be written as one with a mark behind it.  A mark is out
of reach if another one with the same or a later place stands before it.
-/

namespace DicePool.Text

/-- Where a mark stands; zero for a character that is no mark. -/
def placeOf (c : Char) : Nat :=
  match placeRuns.find? fun (first, last, _) => first ≤ c.toNat && c.toNat ≤ last with
  | some (_, _, place) => place
  | none => 0

/-- Whether the characters are parts of a Hangul syllable that are written as one: a first consonant
with a vowel, or these two with a last consonant. -/
def areSyllable (a b : Char) : Bool :=
  let m := a.toNat
  let n := b.toNat
  (0x1100 ≤ m && m ≤ 0x1112 && 0x1161 ≤ n && n ≤ 0x1175)
    || (0xac00 ≤ m && m ≤ 0xd7a3 && (m - 0xac00) % 28 == 0 && 0x11a8 ≤ n && n ≤ 0x11c2)

/-- Whether two characters are written as one. -/
def compose (a b : Char) : Bool :=
  areSyllable a b || compositions.any fun (mark, letters) =>
    mark == b.toNat && letters.contains a.toNat

/-- Whether a text is composed behind a letter, if there is one, and marks that end with one of the place
`place`. -/
def isComposedAfter (letter : Option Char) (place : Nat) : List Char → Bool
  | [] => true
  | c :: rest =>
    let here := placeOf c
    let isInReach := place == 0 || place < here
    !inRanges replacedRanges c.toNat && !(here != 0 && here < place)
      && !(isInReach && letter.any fun a => compose a c)
      && if here == 0 then isComposedAfter (some c) 0 rest else isComposedAfter letter here rest

/-- Whether a text is composed. -/
def isComposed (s : List Char) : Bool :=
  isComposedAfter none 0 s

end DicePool.Text
