/-!
# Roll/Request — what is asked of the dice

A request names the size of a pool and the modifiers that apply.  A pool of no dice, or of fewer than
none, is rolled as a single chance die.  `Modifiers.threshold` is the lowest face that adds another die:
ten unless a modifier says otherwise, and no face at all when nothing explodes.
-/

namespace DicePool

/-- A modifier that a roll may name. -/
inductive Modifier where
  /-- Failed dice are rolled again, once. -/
  | rote
  /-- Nines and tens add a die. -/
  | nineAgain
  /-- Eights, nines and tens add a die. -/
  | eightAgain
  /-- Tens add a die, as they do anyway. -/
  | tenAgain
  /-- Nothing adds a die. -/
  | noExplode
deriving DecidableEq, Repr

/-- The modifiers that are set. -/
structure Modifiers where
  /-- Failed dice are rolled again, once. -/
  rote : Bool := false
  /-- Nines and tens add a die. -/
  nineAgain : Bool := false
  /-- Eights, nines and tens add a die. -/
  eightAgain : Bool := false
  /-- Nothing adds a die. -/
  noExplode : Bool := false
deriving DecidableEq, Repr

namespace Modifiers

/-- Sets one more modifier. -/
def insert (m : Modifiers) : Modifier → Modifiers
  | .rote => { m with rote := true }
  | .nineAgain => { m with nineAgain := true }
  | .eightAgain => { m with eightAgain := true }
  | .tenAgain => m
  | .noExplode => { m with noExplode := true }

/-- The modifiers of a list. -/
def ofList (l : List Modifier) : Modifiers :=
  l.foldl insert {}

/-- What is set on either side. -/
def union (a b : Modifiers) : Modifiers where
  rote := a.rote || b.rote
  nineAgain := a.nineAgain || b.nineAgain
  eightAgain := a.eightAgain || b.eightAgain
  noExplode := a.noExplode || b.noExplode

/-- The lowest face that adds another die, if any does: exploding on nothing wins over exploding on
eight, and that over exploding on nine. -/
def threshold (m : Modifiers) : Option Nat :=
  if m.noExplode then none
  else if m.eightAgain then some 8
  else if m.nineAgain then some 9
  else some 10

/-- The modifiers that show in the description of a pool. -/
def shown (m : Modifiers) : List String :=
  (if m.rote then ["rote"] else []) ++
    match m.threshold with
    | none => ["no 10-again"]
    | some t => if t < 10 then [s!"{t}-again"] else []

/-- **A threshold lies between eight and ten.** -/
theorem threshold_bounds {m : Modifiers} {t : Nat} (h : m.threshold = some t) : 8 ≤ t ∧ t ≤ 10 := by
  grind [threshold]

end Modifiers

/-- A roll that is asked for. -/
structure Request extends Modifiers where
  /-- The number of dice; zero or less asks for a chance die. -/
  poolSize : Int
deriving DecidableEq, Repr

namespace Request

/-- Whether a single chance die is rolled. -/
def isChance (r : Request) : Bool :=
  r.poolSize ≤ 0

/-- The request with more modifiers set. -/
def withModifiers (r : Request) (m : Modifiers) : Request :=
  { r with toModifiers := r.toModifiers.union m }

/-- The modifiers that show in a description; a chance die shows none. -/
def describe (r : Request) : List String :=
  if r.isChance then [] else r.shown

end Request

end DicePool
