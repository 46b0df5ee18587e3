import Mathlib.Data.List.Basic

/-!
# Proofs/Text/Runs — where a word ends

A run of characters of one kind ends where another kind begins. So a text that begins with such a
run determines it (`append_inj_of_runs`), and a text that lists words determines the words, as long
as the separator and what follows the list begin with something that no word contains
(`intercalate_append_inj`).
-/

namespace DicePool

variable {α : Type} {p : α → Bool}

/-- A run of one kind is all of that kind that a text begins with, if something of another kind
follows. -/
theorem takeWhile_append_of_run {r x : List α} (hr : ∀ c ∈ r, p c) (hx : ∀ c ∈ x.head?, ¬p c) :
    (r ++ x).takeWhile p = r := by
  rw [List.takeWhile_append_of_pos hr]
  cases x with
  | nil => simp
  | cons c x => rw [List.takeWhile_cons_of_neg (hx c rfl), List.append_nil]

/-- **Two runs of one kind, each followed by something of another kind, can be told apart.** -/
theorem append_inj_of_runs {a b x y : List α} (ha : ∀ c ∈ a, p c) (hb : ∀ c ∈ b, p c)
    (hx : ∀ c ∈ x.head?, ¬p c) (hy : ∀ c ∈ y.head?, ¬p c) (h : a ++ x = b ++ y) :
    a = b ∧ x = y := by
  have hab : a = b := by
    rw [← takeWhile_append_of_run ha hx, h, takeWhile_append_of_run hb hy]
  subst hab
  exact ⟨rfl, List.append_cancel_left h⟩

/-! ## Words in a list -/

/-- A list of words, with the separator in front of every word but the first. -/
theorem intercalate_cons_eq_flatMap (sep w : List α) (ws : List (List α)) :
    sep.intercalate (w :: ws) = w ++ ws.flatMap (sep ++ ·) := by
  induction ws generalizing w with
  | nil => simp
  | cons v ws ih =>
    rw [List.intercalate_cons_cons, ih, List.flatMap_cons, List.append_assoc, List.append_assoc]

section

variable {s : α} {sep : List α}

theorem head?_flatMap_append {ws : List (List α)} {x : List α} (hs : ¬p s)
    (hx : ∀ c ∈ x.head?, ¬p c ∧ c ≠ s) :
    ∀ c ∈ (ws.flatMap (s :: sep ++ ·) ++ x).head?, ¬p c := by
  cases ws with
  | nil => exact fun c hc => (hx c hc).1
  | cons w ws =>
    rintro c ⟨⟩
    exact hs

/-- Words that each follow a separator can be told apart. -/
theorem flatMap_append_inj (hs : ¬p s) {ws vs : List (List α)} {x y : List α}
    (hws : ∀ w ∈ ws, ∀ c ∈ w, p c) (hvs : ∀ v ∈ vs, ∀ c ∈ v, p c)
    (hx : ∀ c ∈ x.head?, ¬p c ∧ c ≠ s) (hy : ∀ c ∈ y.head?, ¬p c ∧ c ≠ s)
    (h : ws.flatMap (s :: sep ++ ·) ++ x = vs.flatMap (s :: sep ++ ·) ++ y) :
    ws = vs ∧ x = y := by
  induction ws generalizing vs with
  | nil =>
    cases vs with
    | nil => exact ⟨rfl, h⟩
    | cons v vs => exact absurd rfl (hx s (by rw [show x = _ from h]; rfl)).2
  | cons w ws ih =>
    cases vs with
    | nil => exact absurd rfl (hy s (by rw [show y = _ from h.symm]; rfl)).2
    | cons v vs =>
      rw [List.forall_mem_cons] at hws hvs
      rw [List.flatMap_cons, List.flatMap_cons, List.append_assoc, List.append_assoc,
        List.append_assoc, List.append_assoc] at h
      obtain ⟨rfl, htail⟩ := append_inj_of_runs hws.1 hvs.1 (head?_flatMap_append hs hx)
        (head?_flatMap_append hs hy) (List.append_cancel_left h)
      obtain ⟨rfl, hxy⟩ := ih hws.2 hvs.2 htail
      exact ⟨rfl, hxy⟩

/-- **The words of a list can be told apart, and so can what follows them.** -/
theorem intercalate_append_inj (hs : ¬p s) {ws vs : List (List α)} (hne : ws ≠ []) (hne' : vs ≠ [])
    {x y : List α} (hws : ∀ w ∈ ws, ∀ c ∈ w, p c) (hvs : ∀ v ∈ vs, ∀ c ∈ v, p c)
    (hx : ∀ c ∈ x.head?, ¬p c ∧ c ≠ s) (hy : ∀ c ∈ y.head?, ¬p c ∧ c ≠ s)
    (h : (s :: sep).intercalate ws ++ x = (s :: sep).intercalate vs ++ y) : ws = vs ∧ x = y := by
  obtain ⟨w, ws, rfl⟩ := List.exists_cons_of_ne_nil hne
  obtain ⟨v, vs, rfl⟩ := List.exists_cons_of_ne_nil hne'
  rw [List.forall_mem_cons] at hws hvs
  rw [intercalate_cons_eq_flatMap, intercalate_cons_eq_flatMap, List.append_assoc,
    List.append_assoc] at h
  obtain ⟨rfl, htail⟩ := append_inj_of_runs hws.1 hvs.1 (head?_flatMap_append hs hx)
    (head?_flatMap_append hs hy) h
  obtain ⟨rfl, hxy⟩ := flatMap_append_inj hs hws.2 hvs.2 hx hy htail
  exact ⟨rfl, hxy⟩

end

end DicePool
