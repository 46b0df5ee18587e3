import DicePool.Dice.Source

/-!
# Dice/Twister — reproducible dice

A seeded stream of ten-sided dice from the Mersenne twister on 624 words of 32 bits.  The seed is cut
into words, least significant first, its sign is dropped, and all words are mixed into the state.  A
face takes the top four bits of an output, drawn again until they count less than ten.
-/

namespace DicePool

/-- The state of the generator. -/
structure Twister where
  /-- The 624 words. -/
  words : Array UInt32
  /-- How many of them were given out. -/
  used : Nat

namespace Twister

/-- The number of words. -/
def size : Nat := 624

/-- The words of a number, least significant first; zero has one word. -/
def seedWords (n : Nat) : List UInt32 :=
  if n < 0x100000000 then [UInt32.ofNat n]
  else UInt32.ofNat n :: seedWords (n / 0x100000000)
termination_by n
decreasing_by omega

/-- The state from a single word. -/
def ofWord (seed : UInt32) : Array UInt32 :=
  (List.range (size - 1)).foldl
    (fun (words : Array UInt32) i =>
      let last : UInt32 := words.getD i 0
      words.push ((1812433253 : UInt32) * (last ^^^ (last >>> 30)) + UInt32.ofNat (i + 1)))
    #[seed]

/-- A word mixed with the word before it. -/
def stirred (words : Array UInt32) (i : Nat) (factor : UInt32) : UInt32 :=
  let before : UInt32 := words.getD (i - 1) 0
  words.getD i 0 ^^^ ((before ^^^ (before >>> 30)) * factor)

/-- Stores a word and moves on; after the last place the first one follows the second. -/
def store (words : Array UInt32) (i : Nat) (word : UInt32) : Array UInt32 × Nat :=
  let words := words.setIfInBounds i word
  if i + 1 < size then (words, i + 1) else (words.setIfInBounds 0 word, 1)

/-- The generator of a seed. -/
def ofSeed (seed : Int) : Twister :=
  let key := (seedWords seed.natAbs).toArray
  let first := (List.range (max size key.size)).foldl
    (fun (words, i) k =>
      let j := k % key.size
      store words i (stirred words i 1664525 + key.getD j 0 + UInt32.ofNat j))
    (ofWord 19650218, 1)
  let second := (List.range (size - 1)).foldl
    (fun (words, i) _ => store words i (stirred words i 1566083941 - UInt32.ofNat i))
    first
  ⟨second.1.setIfInBounds 0 0x80000000, size⟩

/-- The next 624 words. -/
def regenerate (words : Array UInt32) : Array UInt32 :=
  (List.range size).foldl
    (fun words i =>
      let y : UInt32 := (words.getD i 0 &&& 0x80000000) ||| (words.getD ((i + 1) % size) 0 &&& 0x7fffffff)
      let twist : UInt32 := if y &&& 1 == 0 then 0 else 0x9908b0df
      words.setIfInBounds i (words.getD ((i + 397) % size) 0 ^^^ (y >>> 1) ^^^ twist))
    words

/-- A word of the state as it is given out. -/
def temper (y : UInt32) : UInt32 :=
  let y := y ^^^ (y >>> 11)
  let y := y ^^^ ((y <<< 7) &&& 0x9d2c5680)
  let y := y ^^^ ((y <<< 15) &&& 0xefc60000)
  y ^^^ (y >>> 18)

/-- The next output. -/
def next (t : Twister) : UInt32 × Twister :=
  let t := if t.used < size then t else ⟨regenerate t.words, 0⟩
  (temper (t.words.getD t.used 0), { t with used := t.used + 1 })

/-- How many outputs are looked at for one die. -/
def patience : Nat := 100000

/-- The next die: of up to `fuel` outputs the first whose top four bits count less than ten. -/
def roll : Nat → Twister → Nat × Twister
  | 0, t => (1, t)
  | fuel + 1, t =>
    let (word, t) := t.next
    let top := (word >>> 28).toNat
    if top < 10 then (top + 1, t) else roll fuel t

/-- **A die shows one to ten.** -/
theorem roll_bounds (fuel : Nat) (t : Twister) :
    1 ≤ (roll fuel t).1 ∧ (roll fuel t).1 ≤ 10 := by
  induction fuel generalizing t with
  | zero => simp [roll]
  | succ fuel ih =>
    simp only [roll]
    split
    · rename_i h
      exact ⟨Nat.le_add_left 1 _, by show _ + 1 ≤ 10; omega⟩
    · exact ih _

/-- The next face. -/
def draw (t : Twister) : Except Exhausted Face × Twister :=
  let (n, t) := roll patience t
  (.ok (.pips (.number n)), t)

instance : Source Twister := ⟨draw⟩

end Twister

/-- Dice for a run: a script, or the stream of a seed. -/
inductive Dice where
  /-- Faces that are fixed beforehand. -/
  | scripted (s : Script)
  /-- The stream of a seed. -/
  | seeded (t : Twister)

namespace Dice

/-- The next face. -/
def draw : Dice → Except Exhausted Face × Dice
  | .scripted s => let (f, s) := Source.draw s; (f, .scripted s)
  | .seeded t => let (f, t) := Source.draw t; (f, .seeded t)

instance : Source Dice := ⟨draw⟩

/-- The dice of a seed. -/
def ofSeed (seed : Int) : Dice := .seeded (.ofSeed seed)

/-- The dice of a list of faces. -/
def ofFaces (faces : List Face) : Dice := .scripted (.ofList faces)

/-- How many faces are left, if they are counted. -/
def remaining? : Dice → Option Nat
  | .scripted s => some s.remaining
  | .seeded _ => none

end Dice

end DicePool
