import DicePool.Discord.Interaction
import DicePool.Proofs.Named

/-!
# Proofs/Discord/Options — taking the options of an interaction apart

The options of a command are a list of objects, or stand in a subcommand, where they may be any value
at all. A value lists options if it counts as false, which lists none, or is a list of objects
(`Lists`); of any other the options cannot be taken. Main statement `options_eq_ok_iff`: what is taken,
and from which interactions.
-/

namespace DicePool.Discord.Interaction

/-! ## Lists of objects -/

/-- Options that are put one after the other stand as they were, if every name comes once. -/
theorem foldl_addOption_eq {l : List (Named Json)} {given : Named Json}
    (hl : List.Forall₂ (fun o p => o.get? "name" = some (.str p.1) ∧ o.getD "value" .null = p.2)
      l given) (hnames : given.names.Nodup) : l.foldl addOption [] = given := by
  have hput : ∀ options : Named Json, l.foldl addOption options
      = given.foldl (fun out p => out.put p.1 p.2) options := by
    induction hl with
    | nil => exact fun options => rfl
    | cons hfirst _ ih =>
      intro options
      rw [List.foldl_cons, List.foldl_cons, addOption, hfirst.1, hfirst.2]
      exact ih (List.Nodup.of_cons hnames) _
  rw [hput, Named.foldl_put_eq_append (by rwa [List.nil_append]), List.nil_append]

@[simp] theorem collect_map_obj (options : Named Json) (l : List (Named Json)) :
    collect options (l.map .obj) = .ok (l.foldl addOption options) := by
  induction l generalizing options with
  | nil => rfl
  | cons o l ih => exact ih _

/-- **Options are taken from a list of objects only.** -/
theorem collect_eq_ok_iff {given options : Named Json} {items : List Json} :
    collect given items = .ok options
      ↔ ∃ l : List (Named Json), items = l.map .obj ∧ options = l.foldl addOption given := by
  constructor
  · intro h
    induction items generalizing given with
    | nil => exact ⟨[], rfl, (Except.ok.inj h).symm⟩
    | cons v items ih =>
      cases v with
      | obj o =>
        obtain ⟨l, rfl, rfl⟩ := ih h
        exact ⟨o :: l, rfl, rfl⟩
      | null | bool | int | float | str | arr => cases h
  · rintro ⟨l, rfl, rfl⟩
    exact collect_map_obj given l

/-! ## Values -/

/-- The options that a value lists: none if it counts as false, and else objects. -/
def Lists (v : Json) (l : List (Named Json)) : Prop :=
  (v.isTruthy = false ∧ l = []) ∨ v = .arr (l.map .obj)

/-- **A value has the options that it lists.** -/
theorem optionsIn_eq_ok_iff {v : Json} {options : Named Json} :
    optionsIn v = .ok options ↔ ∃ l, Lists v l ∧ options = l.foldl addOption [] := by
  cases htruthy : v.isTruthy with
  | false =>
    have hnone : optionsIn v = .ok [] := by
      unfold optionsIn
      rw [htruthy]
      rfl
    rw [hnone]
    constructor
    · rintro ⟨⟩
      exact ⟨[], .inl ⟨htruthy, rfl⟩, rfl⟩
    · rintro ⟨l, ⟨-, rfl⟩ | rfl, rfl⟩
      · rfl
      · have hl : l = [] := by simpa [Json.isTruthy] using htruthy
        rw [hl]
        rfl
  | true =>
    have hlists : ∀ l, Lists v l ↔ v = .arr (l.map .obj) := fun l => by simp [Lists, htruthy]
    simp only [hlists, optionsIn, htruthy, Bool.not_true, Bool.false_eq_true, if_false]
    cases v with
    | arr items => simp [collect_eq_ok_iff]
    | null | bool | int | float | str | obj => simp

/-! ## Interactions -/

/-- The options that an interaction gives: those that its subcommand lists, if it has one. -/
def Gives (i : Interaction) (l : List (Named Json)) : Prop :=
  match leading? i.listed with
  | some o => Lists (o.getD "options" .null) l
  | none => l = i.listed

/-- **The options of an interaction are those that it gives, by name** — and they can be taken apart
just in case it gives any list. -/
theorem options_eq_ok_iff {i : Interaction} {options : Named Json} :
    i.options = .ok options ↔ ∃ l, i.Gives l ∧ options = l.foldl addOption [] := by
  unfold Interaction.options Gives
  cases leading? i.listed with
  | none => simp [eq_comm]
  | some o => exact optionsIn_eq_ok_iff

end DicePool.Discord.Interaction
