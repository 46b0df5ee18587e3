/-!
# Named — values by name, in the order in which the names first came

`put` gives a name a value: a new name goes to the end, and a name that is already there keeps its
place.  A value is looked up by `get?`.
-/

namespace DicePool

/-- Values by name, in order. -/
abbrev Named (α : Type) := List (String × α)

namespace Named

variable {α : Type}

/-- The value of a name. -/
def get? (l : Named α) (name : String) : Option α :=
  l.lookup name

/-- The value of a name, or another if there is none. -/
def getD (l : Named α) (name : String) (fallback : α) : α :=
  (l.get? name).getD fallback

/-- Gives a name a value. -/
def put : Named α → String → α → Named α
  | [], name, value => [(name, value)]
  | (k, v) :: rest, name, value =>
    if k = name then (k, value) :: rest else (k, v) :: put rest name value

/-- The names, in order. -/
def names (l : Named α) : List String :=
  l.map (·.1)

@[simp] theorem get?_nil (name : String) : get? ([] : Named α) name = none := rfl

theorem get?_cons (k name : String) (v : α) (l : Named α) :
    get? ((k, v) :: l) name = if name = k then some v else l.get? name := by
  by_cases h : name = k
  · simp [get?, h]
  · simp [get?, List.lookup_cons, beq_eq_false_iff_ne.2 h, h]

/-- **What was put is found, and other names keep their values.** -/
theorem get?_put (l : Named α) (name other : String) (value : α) :
    (l.put name value).get? other = if other = name then some value else l.get? other := by
  induction l with
  | nil => simp [put, get?_cons]
  | cons p l ih =>
    obtain ⟨k, v⟩ := p
    by_cases hk : k = name
    · subst hk
      by_cases ho : other = k <;> simp [put, get?_cons, ho]
    · by_cases ho : other = k
      · subst ho
        simp [put, get?_cons, hk]
      · simp [put, get?_cons, hk, ho, ih]

end Named

end DicePool
