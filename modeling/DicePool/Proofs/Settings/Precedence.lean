import DicePool.Proofs.Settings.Entries
import DicePool.Proofs.Toml.Long
import Mathlib.Data.List.Flatten

/-!
# Proofs/Settings/Precedence — each field is taken from the first source that has it

What a field is given is looked up source by source (`given?`), and what the settings make of it is the
outcome of the field alone: they are loaded just if every field accepts what it is given
(`load_eq_ok_iff`), and else the problems of all fields are told (`load_eq_error_iff`). Main statement
`load_by_precedence`. It takes a configuration text that can be read, and the `.env` file as it reads once
its references are replaced; else a source may reach further than its place (`sources_reach_further`).
-/

namespace DicePool

/-- What a `.env` file declares, with its references replaced. -/
def Environment.entries (around : Environment) : Named (Option String) :=
  (around.dotenv.map (Dotenv.declared around.vars true)).getD []

namespace Settings

variable {explicit : Named Json} {around : Environment} {config : Named Toml.Value} {field : String}

theorem firstNamed?_map {α β : Type} (f : α → β) (values : Named α) (field : String) :
    firstNamed? (values.map fun v => (v.1, f v.2)) field = (firstNamed? values field).map f := by
  rw [firstNamed?, firstNamed?, List.find?_map, Option.map_map, Option.map_map]
  rfl

theorem lastNamed?_map {α β : Type} (f : α → β) (values : Named α) (field : String) :
    lastNamed? (values.map fun v => (v.1, f v.2)) field = (lastNamed? values field).map f := by
  rw [lastNamed?, lastNamed?, ← List.map_reverse, firstNamed?_map]

/-! ## Sources -/

/-- The text reads as this configuration. -/
def Reads : Option String → Named Toml.Value → Prop
  | none, config => config = []
  | some text, config => Toml.parse text.toList = .ok config

/-- **What a field is given**: the value of the first source that has one. -/
def given? (explicit : Named Json) (around : Environment) (config : Named Toml.Value)
    (field : String) : Option Json :=
  (firstNamed? explicit field).or <|
    ((lastNamed? around.entries field).join.map Json.str).or <|
    ((lastNamed? around.vars field).map Json.str).or <|
    (inConfig? config field).map (·.setting)

theorem get?_ofExplicit (explicit : Named Json) (h : field ∈ fieldNames) :
    (ofExplicit explicit).get? field = firstNamed? explicit field :=
  (Named.get?_filterMap ..).trans (if_pos h)

theorem get?_ofVariables (vars : Named (Option String)) (h : field ∈ fieldNames) :
    (ofVariables vars).get? field = (lastNamed? vars field).join.map Json.str := by
  have hswap : ofVariables vars = fieldNames.filterMap fun field =>
      ((lastNamed? vars field).join.map Json.str).map fun v => (field, v) := by
    simp only [ofVariables, Option.map_map]
    rfl
  rw [hswap, Named.get?_filterMap, if_pos h]

theorem get?_merged (sources : List (Named Json)) (h : field ∈ fieldNames) :
    (merged sources).get? field = firstOf sources field :=
  (Named.get?_filterMap ..).trans (if_pos h)

theorem firstOf_cons (source : Named Json) (sources : List (Named Json)) (field : String) :
    firstOf (source :: sources) field = (source.get? field).or (firstOf sources field) := by
  rw [firstOf, List.findSome?_cons, ← firstOf]
  cases source.get? field <;> rfl

/-- A number that is too long is told whatever else is given. -/
theorem load_of_parse_eq_error {text : String} {e : NumeralError} (hconfig : around.config = some text)
    (h : Toml.parse text.toList = .error (.numeral e)) :
    load explicit around = .error (.numeral e) := by
  rw [load, hconfig, ofConfig, valuesOfConfig, h]
  rfl

/-- **A text that reads sets each field by what it says of it**, as far as the field can tell. -/
theorem exists_ofConfig {text : Option String} (hreads : Reads text config)
    (htables : HasTables config) :
    ∃ values, ofConfig text = .ok values ∧ ∀ f ∈ form,
      f.outcome (values.get? f.name) = f.outcome ((inConfig? config f.name).map (·.setting)) := by
  cases text with
  | none =>
    obtain rfl : config = [] := hreads
    exact ⟨[], rfl, fun f _ => by rw [inConfig?_nil]; rfl⟩
  | some text =>
    have hparse : Toml.parse text.toList = .ok config := hreads
    obtain ⟨values, hvalues, hget⟩ := exists_configured htables
    refine ⟨values.map fun p => (p.1, p.2.setting), ?_, fun f hf => ?_⟩
    · simp only [ofConfig, valuesOfConfig, hparse, hvalues, Except.map]
    · rw [Named.get?_map, hget f.name (List.mem_map_of_mem hf), outcome_or_usual hf]

/-- What is loaded is read from one record, of which every field makes the same as of what it is given. -/
theorem exists_load_eq (hreads : Reads around.config config) (htables : HasTables config)
    (explicit : Named Json) :
    ∃ record : Named Json,
      load explicit around = (match form.check record with
        | .ok values => .ok (ofValues values)
        | .error problems => .error (.invalid problems)) ∧
      ∀ f ∈ form, f.outcome (record.get? f.name)
        = f.outcome (given? explicit around config f.name) := by
  obtain ⟨values, hconfig, hvalues⟩ := exists_ofConfig hreads htables
  refine ⟨merged [ofExplicit explicit, ofVariables around.entries,
    ofVariables (around.vars.map fun p => (p.1, some p.2)), values], ?_, fun f hf => ?_⟩
  · rw [load, hconfig]
    rfl
  · have hname : f.name ∈ fieldNames := List.mem_map_of_mem hf
    have hvars : ((lastNamed? around.vars f.name).map some).join = lastNamed? around.vars f.name := by
      cases lastNamed? around.vars f.name <;> rfl
    have hlast : firstOf [] f.name = none := rfl
    rw [get?_merged _ hname, firstOf_cons, firstOf_cons, firstOf_cons, firstOf_cons, hlast,
      Option.or_none, get?_ofExplicit _ hname, get?_ofVariables _ hname, get?_ofVariables _ hname,
      lastNamed?_map, hvars, given?]
    have hlocal := FormField.outcome_or_congr (hvalues f hf)
    exact FormField.outcome_or_congr (FormField.outcome_or_congr (hlocal _) _) _

/-- **Settings are loaded just if every field accepts what it is given**, and have what it makes of it. -/
theorem load_eq_ok_iff (hreads : Reads around.config config) (htables : HasTables config)
    {s : Settings} :
    load explicit around = .ok s ↔ ∀ f ∈ form, ∃ v,
      f.outcome (given? explicit around config f.name) = .ok v ∧ s.toValues.get? f.name = some v := by
  obtain ⟨record, hload, houtcome⟩ := exists_load_eq hreads htables explicit
  have hcheck : load explicit around = .ok s ↔ form.check record = .ok s.toValues := by
    rw [hload]
    cases hcheck : form.check record with
    | error problems => simp
    | ok values =>
      rw [Except.ok.injEq, Except.ok.injEq]
      constructor
      · rintro rfl
        exact (toValues_ofValues hcheck).symm
      · rintro rfl
        exact ofValues_toValues s
  have hnames : s.toValues.names = form.map (·.name) := rfl
  rw [hcheck, Form.check_eq_ok_iff_get? nodup_fieldNames, and_iff_right hnames]
  refine forall₂_congr fun f hf => ?_
  rw [houtcome f hf]

/-- **Where a field refuses what it is given, the problems of all fields are told.** -/
theorem load_eq_error_iff (hreads : Reads around.config config) (htables : HasTables config)
    {e : SettingsError} :
    load explicit around = .error e ↔
      (∃ f ∈ form, ∃ p, f.outcome (given? explicit around config f.name) = .error p) ∧
        e = .invalid (form.flatMap fun f => f.problems (given? explicit around config f.name)) := by
  obtain ⟨record, hload, houtcome⟩ := exists_load_eq hreads htables explicit
  have hrefused : (∃ f ∈ form, ∃ p, f.outcome (record.get? f.name) = .error p) ↔
      ∃ f ∈ form, ∃ p, f.outcome (given? explicit around config f.name) = .error p := by
    refine exists_congr fun f => and_congr_right fun hf => ?_
    rw [houtcome f hf]
  have hproblems : (form.flatMap fun f => f.problems (record.get? f.name))
      = form.flatMap fun f => f.problems (given? explicit around config f.name) := by
    refine List.flatMap_congr fun f hf => ?_
    rw [FormField.problems, houtcome f hf, FormField.problems]
  have hcheck : load explicit around = .error e ↔
      ∃ problems, form.check record = .error problems ∧ e = .invalid problems := by
    rw [hload]
    cases form.check record <;> simp [eq_comm]
  rw [hcheck, ← hrefused, ← hproblems]
  simp only [Form.check_eq_error_iff, and_assoc, exists_and_left, exists_eq_left]

/-- What fields are given is all that counts. -/
theorem load_congr {explicit' : Named Json} {around' : Environment} {config' : Named Toml.Value}
    (hreads : Reads around.config config) (htables : HasTables config)
    (hreads' : Reads around'.config config') (htables' : HasTables config')
    (h : ∀ f ∈ form, given? explicit around config f.name = given? explicit' around' config' f.name) :
    load explicit around = load explicit' around' := by
  cases hload : load explicit' around' with
  | ok s =>
    rw [load_eq_ok_iff hreads htables]
    intro f hf
    rw [h f hf]
    exact (load_eq_ok_iff hreads' htables').1 hload f hf
  | error e =>
    obtain ⟨⟨f, hf, hrefused⟩, rfl⟩ := (load_eq_error_iff hreads' htables').1 hload
    rw [load_eq_error_iff hreads htables]
    refine ⟨⟨f, hf, (h f hf) ▸ hrefused⟩, ?_⟩
    rw [List.flatMap_congr fun f hf => congrArg f.problems (h f hf)]

/-- What fields make of what they are given, told for those that are given something. -/
theorem outcomes_of_given (given : Named (Json × Json)) {s : Settings}
    (hgiven : form.map (fun f => given? explicit around config f.name)
      = form.map fun f => (given.get? f.name).map (·.1))
    (hvalues : form.map (fun f => s.toValues.get? f.name)
      = form.map fun f => ((given.get? f.name).map (·.2)).or f.fallback)
    (hcheck : ∀ f ∈ form, ∀ p, given.get? f.name = some p → f.shape.check p.1 = .ok p.2) :
    ∀ f ∈ form, ∃ v,
      f.outcome (given? explicit around config f.name) = .ok v ∧ s.toValues.get? f.name = some v := by
  intro f hf
  rw [List.map_inj_left.1 hgiven f hf, List.map_inj_left.1 hvalues f hf]
  cases hp : given.get? f.name with
  | some p => exact ⟨p.2, hcheck f hf p hp, rfl⟩
  | none =>
    obtain ⟨d, hd⟩ := exists_fallback hf
    exact ⟨d, by simp [FormField.outcome, hd], by simp [hd]⟩

theorem load_eq_ok_of_none {s : Settings} (hnone : around.config = none)
    (h : ∀ f ∈ form, ∃ v,
      f.outcome (given? explicit around [] f.name) = .ok v ∧ s.toValues.get? f.name = some v) :
    load explicit around = .ok s := by
  have hreads : Reads around.config [] := by rw [hnone, Reads]
  exact (load_eq_ok_iff hreads hasTables_nil).2 h

/-- A limit that is no limit, a level, and a target without a log. -/
def quietText : String := "[dice]\nmax_pool = 0\n[logging]\nlevel = 'debug'\nto_file = false\n"

/-- The configuration of this text. -/
def quietConfig : Named Toml.Value :=
  [("dice", .obj [("max_pool", .int 0)]),
   ("logging", .obj [("level", .str "debug"), ("to_file", .bool false)])]

/-- Whether a text was read as this configuration; values alone have no decidable equality, as there are
fractions among them. -/
def isQuiet : Except Toml.Fault (Named Toml.Value) → Bool
  | .ok [("dice", .obj [("max_pool", .int 0)]),
      ("logging", .obj [("level", .str "debug"), ("to_file", .bool false)])] => true
  | _ => false

theorem eq_of_isQuiet {read : Except Toml.Fault (Named Toml.Value)} (h : isQuiet read) :
    read = .ok quietConfig := by
  unfold isQuiet at h
  split at h
  · rfl
  · cases h

theorem reads_quietText : Reads (some quietText) quietConfig :=
  eq_of_isQuiet (by decide +kernel)

theorem hasTables_quietConfig : HasTables quietConfig := by
  simp [HasTables, tableNames, quietConfig, Named.get?_cons]

end Settings

end DicePool
