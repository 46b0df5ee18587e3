import DicePool.Proofs.Settings.Record
import DicePool.Settings.Sources

/-!
# Proofs/Settings/Entries — what a configuration text says of a field

The entry of a field stands in one of five tables, and a field is told by its own entry alone, but for the
levels of the two targets of the log, which may be left to the level of the whole log (`inConfig?`). A
configuration sets more fields than it has entries for (`exists_configured`); but what it makes up is the
default of the field, and changes nothing (`outcome_or_usual`).
-/

namespace DicePool.Settings

/-! ## Entries -/

/-- The tables of a configuration. -/
def tableNames : List String := ["app", "discord", "dice", "logging", "ops"]

/-- What stands under the name of a table is a table. -/
def HasTables (config : Named Toml.Value) : Prop :=
  ∀ name ∈ tableNames, ∀ v, config.get? name = some v → ∃ fields, v = .obj fields

/-- The table of a name, which is empty if there is none. -/
def tableOf (config : Named Toml.Value) (name : String) : Named Toml.Value :=
  match config.get? name with
  | some (.obj fields) => fields
  | _ => []

/-- An entry of a table. -/
def entryAt? (config : Named Toml.Value) (table name : String) : Option Toml.Value :=
  (tableOf config table).get? name

/-- Where the entry of a field stands: the name of its table, and its name there. -/
def places : Named (String × String) :=
  [("env", "app", "env"),
   ("response_timeout_seconds", "discord", "response_timeout_seconds"),
   ("discord_webhook_url_override", "discord", "webhook_url_override"),
   ("dice_seed", "dice", "seed"),
   ("dice_max_pool", "dice", "max_pool"),
   ("dice_max_explosions", "dice", "max_explosions"),
   ("logging_enabled", "logging", "enabled"),
   ("logging_level", "logging", "level"),
   ("logging_console", "logging", "console"),
   ("logging_file", "logging", "to_file"),
   ("logging_file_path", "logging", "file_path"),
   ("logging_max_bytes", "logging", "max_bytes"),
   ("logging_backup_count", "logging", "backup_count"),
   ("metrics_endpoint_enabled", "ops", "metrics_endpoint_enabled")]

/-- The fields for the levels of single targets. -/
def targets : List String := ["logging_console", "logging_file"]

/-- The level of a target: a word in upper case, none at all for false, or else what the whole log has. -/
def levelFor? (whole : Option Toml.Value) : Option Toml.Value → Option Toml.Value
  | some (.str s) => some (.str (String.ofList (Text.upper s.toList)))
  | some (.bool false) => some (.str "NONE")
  | _ => whole

/-- **What a configuration says of a field.** -/
def inConfig? (config : Named Toml.Value) (field : String) : Option Toml.Value :=
  let own := (places.get? field).bind fun place => entryAt? config place.1 place.2
  if field ∈ targets then levelFor? (entryAt? config "logging" "level") own else own

variable {config : Named Toml.Value} {field : String}

theorem hasTables_nil : HasTables [] := by
  intro name _ v hv
  cases hv

/-- Without entries for fields, a configuration says nothing. -/
theorem inConfig?_eq_none (h : ∀ place ∈ places, entryAt? config place.2.1 place.2.2 = none) :
    inConfig? config field = none := by
  have hown : ((places.get? field).bind fun place => entryAt? config place.1 place.2) = none := by
    cases hplace : places.get? field with
    | none => rfl
    | some place => exact h _ (Named.mem_of_get? hplace)
  have hwhole : entryAt? config "logging" "level" = none :=
    h ("logging_level", "logging", "level") (by decide)
  rw [inConfig?, hown, hwhole]
  split <;> rfl

theorem inConfig?_nil : inConfig? [] field = none :=
  inConfig?_eq_none fun _ _ => rfl

/-! ## The fields that a configuration sets -/

theorem table_eq_ok (h : HasTables config) {name : String} (hname : name ∈ tableNames) :
    table config name = .ok (tableOf config name) := by
  rw [table, tableOf]
  cases hget : config.get? name with
  | none => rfl
  | some v =>
    obtain ⟨fields, rfl⟩ := h name hname v hget
    cases fields <;> rfl

theorem targetLevel_getD (whole own : Option Toml.Value) (usual : Toml.Value) :
    targetLevel (whole.getD usual) own = (levelFor? whole own).getD usual := by
  unfold targetLevel levelFor?
  grind

/-- What a configuration makes up for want of an entry. -/
def usual : Named Toml.Value :=
  [("env", .str "dev"), ("response_timeout_seconds", .int 3), ("dice_max_pool", .int 100),
   ("dice_max_explosions", .int 10000), ("logging_enabled", .bool true), ("logging_level", .str "INFO"),
   ("logging_console", .str "INFO"), ("logging_file", .str "INFO"),
   ("logging_file_path", .str "logs/darkroller.jsonl"), ("logging_max_bytes", .int 5000000),
   ("logging_backup_count", .int 5), ("metrics_endpoint_enabled", .bool false)]

theorem get?_toList_map {α : Type} (v : Option α) (name field : String) :
    Named.get? (v.map fun v => (name, v)).toList field = if field = name then v else none := by
  cases v with
  | none => simp
  | some v => simp [Named.get?_cons]

/-- **A configuration with tables sets each field by what it says of it**, or else makes it up. -/
theorem exists_configured (h : HasTables config) :
    ∃ values, configured config = .ok values ∧
      ∀ field ∈ fieldNames, values.get? field = (inConfig? config field).or (usual.get? field) := by
  have htable : ∀ name ∈ tableNames, table config name = .ok (tableOf config name) :=
    fun name hname => table_eq_ok h hname
  simp only [tableNames, List.forall_mem_cons] at htable
  obtain ⟨happ, hdiscord, hdice, hlog, hops, -⟩ := htable
  refine ⟨_, by rw [configured, happ, hdiscord, hdice, hlog, hops]; rfl, ?_⟩
  simp [fieldNames, form, Named.get?_append, Named.get?_cons, get?_toList_map, inConfig?, places, targets,
    usual, entryAt?, Named.getD, targetLevel_getD, Option.or_some]

/-- **What a configuration makes up for a field is the default of the field.** -/
theorem fallback_of_usual {f : FormField} (hf : f ∈ form) {made : Toml.Value}
    (h : usual.get? f.name = some made) : f.fallback = some made.setting := by
  have hall : ∀ f ∈ form, ∀ made, usual.get? f.name = some made → f.fallback = some made.setting := by
    simp [form, usual, Named.get?_cons, Toml.Value.setting, Toml.Value.toJson]
  exact hall f hf made h

/-- **What is made up changes nothing.** -/
theorem outcome_or_usual {f : FormField} (hf : f ∈ form) (given : Option Toml.Value) :
    f.outcome ((given.or (usual.get? f.name)).map (·.setting)) = f.outcome (given.map (·.setting)) := by
  cases h : usual.get? f.name with
  | none => rw [Option.or_none]
  | some made =>
    rw [Option.map_or]
    exact (acceptsFallback_of_mem hf).outcome_or (fallback_of_usual hf h) _

end DicePool.Settings
