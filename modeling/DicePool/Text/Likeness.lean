/-!
# Text/Likeness — which words are spelled alike

The characters that two words share are those of their first longest common run, and of what lies before
it in both, and of what lies behind it in both.  Words are alike if they share at least three fifths of
their characters.
-/

namespace DicePool.Text

/-- The length of the common beginning of two words. -/
def commonStart : List Char → List Char → Nat
  | a :: as, b :: bs => if a = b then commonStart as bs + 1 else 0
  | _, _ => 0

/-- A common run of two words: where it begins in each, and its length. -/
structure Run where
  /-- Where it begins in the first word. -/
  left : Nat
  /-- Where it begins in the second word. -/
  right : Nat
  /-- Its length. -/
  length : Nat
deriving DecidableEq, Repr

/-- The first of the longest common runs. -/
def longestRun (a b : List Char) : Run :=
  (List.range a.length).foldl (fun best i =>
    (List.range b.length).foldl (fun best j =>
      let n := commonStart (a.drop i) (b.drop j)
      if best.length < n then ⟨i, j, n⟩ else best) best) ⟨0, 0, 0⟩

/-- How many characters two words share; `fuel` bounds the runs. -/
def sharedUpTo : Nat → List Char → List Char → Nat
  | 0, _, _ => 0
  | fuel + 1, a, b =>
    let run := longestRun a b
    if run.length = 0 then 0
    else run.length + sharedUpTo fuel (a.take run.left) (b.take run.right)
      + sharedUpTo fuel (a.drop (run.left + run.length)) (b.drop (run.right + run.length))

/-- How many characters two words share. -/
def shared (a b : List Char) : Nat :=
  sharedUpTo a.length a b

/-- Twice the characters that two words share, and the characters that they have. -/
def likeness (a b : List Char) : Nat × Nat :=
  (2 * shared a b, a.length + b.length)

/-- Whether two words are alike; words of very different lengths cannot be. -/
def isAlike (a b : List Char) : Bool :=
  3 * (a.length + b.length) ≤ 10 * min a.length b.length &&
    let (num, den) := likeness a b
    3 * den ≤ 5 * num

/-- How many words are proposed for a word. -/
def proposals : Nat := 3

/-- Whether the first word is to be proposed before the second: it is more like the word, or as like and
later in the order. -/
def goesBefore (word : List Char) (a b : String) : Bool :=
  let (n, d) := likeness a.toList word
  let (n', d') := likeness b.toList word
  n' * d < n * d' || (n * d' == n' * d && b ≤ a)

/-- The words that are most like a word, in order. -/
def alike (word : String) (among : List String) : List String :=
  let w := word.toList
  let found := (among.filter fun a => isAlike a.toList w).mergeSort (goesBefore w)
  (found.take proposals).mergeSort fun a b => a ≤ b

end DicePool.Text
