/-!
# Bot/Recent — a bounded store that forgets what was not used for longest

The values stand in a list by key, the one used last in front.  Using a key moves it to the front, and
what then lies beyond the bound is forgotten.
-/

namespace DicePool

/-- Values by key, the one used last in front. -/
abbrev Recent (κ α : Type) := List (κ × α)

namespace Recent

variable {κ α : Type} [DecidableEq κ]

/-- The value of a key, if it is still kept. -/
def get? (l : Recent κ α) (key : κ) : Option α :=
  (l.find? fun p => p.1 = key).map (·.2)

/-- Keeps a value under a key as the one used last, among at most `size` values. -/
def keep (size : Nat) (l : Recent κ α) (key : κ) (value : α) : Recent κ α :=
  ((key, value) :: l.filter fun p => p.1 ≠ key).take size

end Recent

end DicePool
