import DicePool.Form.Basic
import DicePool.Proofs.Named
import Mathlib.Data.List.Forall2

/-!
# Proofs/Form/Checking — a form checks its fields one by one

What a field makes of the value that it is given depends on nothing else (`FormField.outcome`). A form
accepts a record if every field accepts its value, and then has these values in order (`check_eq_ok_iff`).
Else it refuses the record with the problems of all fields (`check_eq_error_iff`). What is accepted is of
the kind of its shape (`Shape.makes_of_check`), so that a checked record can be taken apart field by field
(`Form.Fits`).
-/

namespace DicePool

/-! ## Results together -/

section Both

variable {α β γ : Type} {f : α → β → γ} {a : Checked α} {b : Checked β}

/-- The problems of a result. -/
def Checked.problems : Checked α → List Problem
  | .ok _ => []
  | .error problems => problems

theorem Checked.eq_error_iff {problems : List Problem} :
    a = .error problems ↔ (∃ p, a = .error p) ∧ problems = a.problems := by
  cases a <;> simp [Checked.problems, eq_comm]

theorem both_eq_ok_iff {c : γ} :
    both f a b = .ok c ↔ ∃ x y, a = .ok x ∧ b = .ok y ∧ f x y = c := by
  cases a <;> cases b <;> simp [both]

/-- **Two results are refused together if one of them is**, … -/
theorem exists_both_eq_error_iff :
    (∃ p, both f a b = .error p) ↔ (∃ p, a = .error p) ∨ ∃ p, b = .error p := by
  cases a <;> cases b <;> simp [both]

/-- … with the problems of both. -/
theorem problems_both : Checked.problems (both f a b) = a.problems ++ b.problems := by
  cases a <;> cases b <;> simp [both, Checked.problems]

theorem inside_eq_ok_iff {p : Place} {x : α} : inside p a = .ok x ↔ a = .ok x := by
  cases a <;> simp [inside, Except.mapError]

theorem exists_inside_eq_error_iff {p : Place} :
    (∃ q, inside p a = .error q) ↔ ∃ q, a = .error q := by
  cases a <;> simp [inside, Except.mapError]

end Both

/-! ## Kinds -/

namespace Shape

/-- The value is of the kind that a shape makes of what it accepts. -/
def Makes : Shape → Json → Prop
  | .text _, v => ∃ s, v = .str s
  | .whole _, v => ∃ n, v = .int n
  | .fraction, v => ∃ x, v = .float x
  | .truth, v => ∃ b, v = .bool b
  | .dict, v => ∃ fields, v = .obj fields
  | .list _, v => ∃ items, v = .arr items
  | .nullable s, v => v = .null ∨ s.Makes v
  | .record _, v => ∃ fields, v = .obj fields

theorem exists_of_map_eq_ok {α : Type} {f : α → Json} {x : Checked α} {w : Json}
    (h : x.map f = .ok w) : ∃ a, w = f a := by
  cases x with
  | error p => cases h
  | ok a => exact ⟨a, (Except.ok.inj h).symm⟩

theorem exists_of_checkText {maxLength : Option Nat} {v w : Json}
    (h : checkText maxLength v = .ok w) : ∃ s, w = .str s := by
  unfold checkText at h
  grind [complain]

theorem exists_of_checkWhole {atLeast : Option Int} {v w : Json}
    (h : checkWhole atLeast v = .ok w) : ∃ n, w = .int n := by
  cases hn : wholeOfValue v with
  | error p => simp [checkWhole, hn, bind, Except.bind] at h
  | ok n =>
    simp only [checkWhole, hn, bind, Except.bind] at h
    split at h
    next => cases h
    next => exact ⟨n, (Except.ok.inj h).symm⟩

theorem exists_of_checkFraction {v w : Json} (h : checkFraction v = .ok w) : ∃ x, w = .float x := by
  unfold checkFraction at h
  grind [complain]

theorem exists_of_checkTruth {v w : Json} (h : checkTruth v = .ok w) : ∃ b, w = .bool b := by
  unfold checkTruth at h
  grind [complain]

/-- **What is accepted is of the kind of its shape.** -/
theorem makes_of_check : ∀ {s : Shape} {v w : Json}, s.check v = .ok w → s.Makes w
  | .text _, _, _, h => exists_of_checkText (by rwa [check] at h)
  | .whole _, _, _, h => exists_of_checkWhole (by rwa [check] at h)
  | .fraction, _, _, h => exists_of_checkFraction (by rwa [check] at h)
  | .truth, _, _, h => exists_of_checkTruth (by rwa [check] at h)
  | .dict, v, w, h => by
    unfold check at h
    split at h
    next => exact ⟨_, (Except.ok.inj h).symm⟩
    next => cases h
  | .list item, v, w, h => by
    unfold check at h
    split at h
    next => exact exists_of_map_eq_ok h
    next => cases h
  | .nullable s, v, w, h => by
    unfold check at h
    split at h
    next => exact .inl (Except.ok.inj h).symm
    next => exact .inr (makes_of_check h)
  | .record fields, v, w, h => by
    unfold check at h
    split at h
    next => exact exists_of_map_eq_ok h
    next => cases h

end Shape

/-! ## Fields -/

namespace FormField

/-- What a field makes of the value that it is given, or of none. -/
def outcome (f : FormField) : Option Json → Checked Json
  | some v => f.shape.check v
  | none => match f.fallback with
    | some fallback => .ok fallback
    | none => complain .missing

/-- The problems of a field with what it is given, told under its name. -/
def problems (f : FormField) (given : Option Json) : List Problem :=
  (inside (.field f.name) (f.outcome given)).problems

theorem outcome_or_congr {f : FormField} {x y : Option Json} (h : f.outcome x = f.outcome y)
    (first : Option Json) : f.outcome (first.or x) = f.outcome (first.or y) := by
  cases first with
  | none => exact h
  | some v => rfl

/-- A field that falls back on a value accepts it as it is. -/
def AcceptsFallback (f : FormField) : Prop :=
  ∀ fallback, f.fallback = some fallback → f.shape.check fallback = .ok fallback

/-- **A field may as well be given the value that it falls back on.** -/
theorem AcceptsFallback.outcome_or {f : FormField} (h : f.AcceptsFallback) {fallback : Json}
    (hfallback : f.fallback = some fallback) (given : Option Json) :
    f.outcome (given.or (some fallback)) = f.outcome given := by
  cases given with
  | none => simp only [Option.none_or, outcome, hfallback, h fallback hfallback]
  | some v => rfl

/-- **What a field makes is of the kind of its shape**, whatever it is given. -/
theorem AcceptsFallback.makes {f : FormField} (h : f.AcceptsFallback) {given : Option Json} {v : Json}
    (hv : f.outcome given = .ok v) : f.shape.Makes v := by
  cases given with
  | some w => exact Shape.makes_of_check hv
  | none =>
    cases hfallback : f.fallback with
    | none => simp [outcome, hfallback, complain] at hv
    | some fallback =>
      have hsame : fallback = v := by simpa [outcome, hfallback] using hv
      exact hsame ▸ Shape.makes_of_check (h fallback hfallback)

end FormField

/-! ## Forms -/

namespace Form

variable {form : Form} {given values : Named Json}

theorem check_nil (given : Named Json) : check [] given = .ok [] := by
  simp [check, fields, Shape.checkFields]

theorem check_cons (f : FormField) (form : Form) (given : Named Json) :
    check (f :: form) given
      = both (fun v vs => (f.name, v) :: vs)
          (inside (.field f.name) (f.outcome (given.get? f.name))) (check form given) := by
  obtain ⟨name, shape, fallback, description⟩ := f
  cases h : given.get? name <;> cases fallback <;>
    simp [check, fields, Shape.checkFields, FormField.outcome, h]

/-- **A form accepts a record just if every field accepts its value.** -/
theorem check_eq_ok_iff :
    check form given = .ok values ↔
      List.Forall₂ (fun f p => p.1 = f.name ∧ f.outcome (given.get? f.name) = .ok p.2)
        form values := by
  induction form generalizing values with
  | nil => rw [check_nil, List.forall₂_nil_left_iff, Except.ok.injEq, eq_comm]
  | cons f form ih =>
    rw [check_cons, both_eq_ok_iff, List.forall₂_cons_left_iff]
    simp only [inside_eq_ok_iff, ih]
    constructor
    · rintro ⟨v, vs, hv, hvs, rfl⟩
      exact ⟨_, vs, ⟨rfl, hv⟩, hvs, rfl⟩
    · rintro ⟨⟨name, v⟩, vs, ⟨hname, hv⟩, hvs, rfl⟩
      exact ⟨v, vs, hv, hvs, by rw [← hname]⟩

theorem exists_check_eq_error_iff :
    (∃ p, check form given = .error p) ↔
      ∃ f ∈ form, ∃ p, f.outcome (given.get? f.name) = .error p := by
  induction form with
  | nil => simp [check_nil]
  | cons f form ih =>
    rw [check_cons, exists_both_eq_error_iff, exists_inside_eq_error_iff, ih,
      List.exists_mem_cons_iff]

theorem problems_check :
    Checked.problems (check form given)
      = form.flatMap fun f => f.problems (given.get? f.name) := by
  induction form with
  | nil => rw [check_nil, Checked.problems, List.flatMap_nil]
  | cons f form ih => rw [check_cons, problems_both, ih, List.flatMap_cons, FormField.problems]

/-- **A form that refuses a record tells the problems of all its fields**, in order. -/
theorem check_eq_error_iff {problems : List Problem} :
    check form given = .error problems ↔
      (∃ f ∈ form, ∃ p, f.outcome (given.get? f.name) = .error p) ∧
        problems = form.flatMap fun f => f.problems (given.get? f.name) := by
  rw [Checked.eq_error_iff, exists_check_eq_error_iff, problems_check]

/-- Where every field has a name of its own, a checked record is told by the value of each field. -/
theorem check_eq_ok_iff_get? (hnodup : (form.map (·.name)).Nodup) :
    check form given = .ok values ↔
      values.names = form.map (·.name) ∧
        ∀ f ∈ form, ∃ v, f.outcome (given.get? f.name) = .ok v ∧ values.get? f.name = some v := by
  induction form generalizing values with
  | nil =>
    rw [check_nil, List.map_nil, Except.ok.injEq, Named.names, List.map_eq_nil_iff]
    exact ⟨fun h => ⟨h.symm, nofun⟩, fun h => h.1.symm⟩
  | cons f form ih =>
    rw [List.map_cons, List.nodup_cons] at hnodup
    have hskip : ∀ g ∈ form, ∀ (v : Json) (vs : Named Json),
        Named.get? ((f.name, v) :: vs) g.name = vs.get? g.name := fun g hg v vs => by
      have hne : g.name ≠ f.name := fun h => hnodup.1 (h ▸ List.mem_map_of_mem hg)
      rw [Named.get?_cons, if_neg hne]
    rw [check_cons, both_eq_ok_iff, List.forall_mem_cons]
    simp only [inside_eq_ok_iff, ih hnodup.2, List.map_cons]
    constructor
    · rintro ⟨v, vs, hv, ⟨hnames, hvs⟩, rfl⟩
      refine ⟨by rw [Named.names_cons, hnames], ⟨v, hv, by rw [Named.get?_cons, if_pos rfl]⟩, ?_⟩
      intro g hg
      rw [hskip g hg]
      exact hvs g hg
    · rintro ⟨hnames, ⟨v, hv, hget⟩, hvs⟩
      obtain _ | ⟨⟨name, w⟩, vs⟩ := values
      · cases hnames
      rw [Named.names_cons, List.cons.injEq] at hnames
      obtain ⟨rfl, hnames⟩ := hnames
      rw [Named.get?_cons, if_pos rfl] at hget
      obtain rfl := Option.some.inj hget
      refine ⟨w, vs, hv, ⟨hnames, fun g hg => ?_⟩, rfl⟩
      rw [← hskip g hg w vs]
      exact hvs g hg

/-! ## Records that fit -/

/-- The record has a value of the right kind for every field, in order. -/
def Fits : Form → Named Json → Prop :=
  List.Forall₂ fun f p => p.1 = f.name ∧ f.shape.Makes p.2

/-- **A form that accepts its fallbacks makes records that fit.** -/
theorem fits_of_check (hfallback : ∀ f ∈ form, f.AcceptsFallback)
    (h : check form given = .ok values) : Fits form values := by
  refine ((List.forall₂_and_left _ _).2 ⟨hfallback, check_eq_ok_iff.1 h⟩).imp ?_
  rintro f p ⟨hfallback, hname, hv⟩
  exact ⟨hname, hfallback.makes hv⟩

namespace Fits

variable {name : String} {description : Option String} {fallback : Option Json}

theorem uncons {f : FormField} (h : Fits (f :: form) values) :
    ∃ v, f.shape.Makes v ∧ ∃ rest, values = (f.name, v) :: rest ∧ Fits form rest := by
  obtain ⟨⟨_, v⟩, rest, ⟨rfl, hv⟩, hrest, rfl⟩ := List.forall₂_cons_left_iff.1 h
  exact ⟨v, hv, rest, rfl, hrest⟩

theorem text {maxLength : Option Nat}
    (h : Fits (⟨name, .text maxLength, fallback, description⟩ :: form) values) :
    ∃ s rest, values = (name, .str s) :: rest ∧ Fits form rest := by
  obtain ⟨_, ⟨s, rfl⟩, rest, hrest⟩ := h.uncons
  exact ⟨s, rest, hrest⟩

theorem textOrNull {maxLength : Option Nat}
    (h : Fits (⟨name, .nullable (.text maxLength), fallback, description⟩ :: form) values) :
    ∃ o rest, values = (name, Json.strOrNull o) :: rest ∧ Fits form rest := by
  obtain ⟨_, rfl | ⟨s, rfl⟩, rest, hrest⟩ := h.uncons
  · exact ⟨none, rest, hrest⟩
  · exact ⟨some s, rest, hrest⟩

theorem whole {atLeast : Option Int}
    (h : Fits (⟨name, .whole atLeast, fallback, description⟩ :: form) values) :
    ∃ n rest, values = (name, .int n) :: rest ∧ Fits form rest := by
  obtain ⟨_, ⟨n, rfl⟩, rest, hrest⟩ := h.uncons
  exact ⟨n, rest, hrest⟩

theorem wholeOrNull {atLeast : Option Int}
    (h : Fits (⟨name, .nullable (.whole atLeast), fallback, description⟩ :: form) values) :
    ∃ o rest, values = (name, Json.ofOption .int o) :: rest ∧ Fits form rest := by
  obtain ⟨_, rfl | ⟨n, rfl⟩, rest, hrest⟩ := h.uncons
  · exact ⟨none, rest, hrest⟩
  · exact ⟨some n, rest, hrest⟩

theorem truth (h : Fits (⟨name, .truth, fallback, description⟩ :: form) values) :
    ∃ b rest, values = (name, .bool b) :: rest ∧ Fits form rest := by
  obtain ⟨_, ⟨b, rfl⟩, rest, hrest⟩ := h.uncons
  exact ⟨b, rest, hrest⟩

theorem nil (h : Fits [] values) : values = [] :=
  List.forall₂_nil_left_iff.1 h

end Fits

end Form

end DicePool
