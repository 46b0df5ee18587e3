import DicePool.Json.Order
import DicePool.Settings.Basic
import DicePool.Settings.Dotenv
import DicePool.Text.Case
import DicePool.Toml.Document

/-!
# Settings/Sources — where settings come from

Each field is taken from the first source that defines it: explicit values, the `.env` file, the
variables of the environment, the configuration text, and last its default.  Names are read in any
case.  The configuration text groups the fields into tables; `configured` maps them to
fields and fills in the defaults of the tables.
-/

namespace DicePool

/-- What a run finds around it. -/
structure Environment where
  /-- The variables. -/
  vars : Named String := []
  /-- The text of `config.toml`. -/
  config : Option String := none
  /-- The text of `.env`. -/
  dotenv : Option String := none
  /-- The text of `.env.local`. -/
  dotenvLocal : Option String := none

/-- Why settings cannot be loaded. -/
inductive SettingsError where
  /-- The configuration text is malformed. -/
  | malformedConfig
  /-- A number in the configuration text is too long. -/
  | numeral (e : NumeralError)
  /-- A table of the configuration text is a value of this kind. -/
  | notATable (kind : String)
  /-- Values are not accepted. -/
  | invalid (problems : List Problem)
deriving DecidableEq, Repr

/-- The text of the failure; problems and malformed texts are told otherwise. -/
def SettingsError.message : SettingsError → String
  | .notATable kind => s!"'{kind}' object has no attribute 'get'"
  | .numeral e => e.message
  | .malformedConfig => "malformed configuration"
  | .invalid _ => "invalid settings"

namespace Settings

/-! ## The configuration text -/

/-- The table of a name; whatever counts as false is an empty one. -/
def table (config : Named Toml.Value) (name : String) : Except SettingsError (Named Toml.Value) :=
  match (config.get? name).filter Toml.Value.isTruthy with
  | none => .ok []
  | some (.obj fields) => .ok fields
  | some v => .error (.notATable v.kind)

/-- A level for one target: a word in upper case, or the level of the whole log, or none at all. -/
def targetLevel (whole : Toml.Value) : Option Toml.Value → Toml.Value
  | some (.str s) => .str (String.ofList (Text.upper s.toList))
  | some (.bool b) => if b then whole else .str "NONE"
  | _ => whole

/-- The fields that a parsed configuration sets. -/
def configured (config : Named Toml.Value) : Except SettingsError (Named Toml.Value) := do
  let app ← table config "app"
  let discord ← table config "discord"
  let dice ← table config "dice"
  let log ← table config "logging"
  let level := log.getD "level" (.str "INFO")
  let ops ← table config "ops"
  let always : Named Toml.Value :=
    [("env", app.getD "env" (.str "dev")),
     ("response_timeout_seconds", discord.getD "response_timeout_seconds" (.int 3)),
     ("dice_max_pool", dice.getD "max_pool" (.int 100)),
     ("dice_max_explosions", dice.getD "max_explosions" (.int 10000)),
     ("logging_enabled", log.getD "enabled" (.bool true)),
     ("logging_level", level),
     ("logging_file_path", log.getD "file_path" (.str "logs/darkroller.jsonl")),
     ("logging_max_bytes", log.getD "max_bytes" (.int 5000000)),
     ("logging_backup_count", log.getD "backup_count" (.int 5)),
     ("logging_console", targetLevel level (log.get? "console")),
     ("logging_file", targetLevel level (log.get? "to_file")),
     ("metrics_endpoint_enabled", ops.getD "metrics_endpoint_enabled" (.bool false))]
  let optional (name : String) (v : Option Toml.Value) : Named Toml.Value :=
    (v.map fun v => (name, v)).toList
  return always ++ optional "discord_webhook_url_override" (discord.get? "webhook_url_override")
    ++ optional "dice_seed" (dice.get? "seed")

/-- The values of fields in a configuration text; without a text there are none. -/
def valuesOfConfig : Option String → Except SettingsError (Named Toml.Value)
  | none => .ok []
  | some text => match Toml.parse text.toList with
    | .ok config => configured config
    | .error .malformed => .error .malformedConfig
    | .error (.numeral e) => .error (.numeral e)

/-- The fields that a configuration text sets. -/
def ofConfig (text : Option String) : Except SettingsError (Named Json) :=
  (valuesOfConfig text).map fun values => values.map fun (name, v) => (name, v.setting)

/-! ## Names in any case -/

/-- The first value whose name is a field's in some case. -/
def firstNamed? {α : Type} (values : Named α) (field : String) : Option α :=
  (values.find? fun v => Text.lower v.1.toList == field.toList).map (·.2)

/-- The last value whose name is a field's in some case. -/
def lastNamed? {α : Type} (values : Named α) (field : String) : Option α :=
  firstNamed? values.reverse field

/-- The fields that explicit values set; of several spellings of a name the first counts. -/
def ofExplicit (values : Named Json) : Named Json :=
  fieldNames.filterMap fun field => (firstNamed? values field).map fun v => (field, v)

/-- The fields that variables set; of several spellings of a name the last counts, and a variable without
a value sets none. -/
def ofVariables (vars : Named (Option String)) : Named Json :=
  fieldNames.filterMap fun field => (lastNamed? vars field).join.map fun v => (field, .str v)

/-! ## Precedence -/

/-- The first value of a field among sources. -/
def firstOf (sources : List (Named Json)) (field : String) : Option Json :=
  sources.findSome? fun s => s.get? field

/-- The fields that sources set, each from the first one that does. -/
def merged (sources : List (Named Json)) : Named Json :=
  fieldNames.filterMap fun field => (firstOf sources field).map fun v => (field, v)

/-- The settings of sources. -/
def ofSources (sources : List (Named Json)) : Except SettingsError Settings :=
  match form.check (merged sources) with
  | .ok values => .ok (ofValues values)
  | .error problems => .error (.invalid problems)

/-- The settings under explicit values. -/
def load (explicit : Named Json) (around : Environment) : Except SettingsError Settings := do
  let file := (around.dotenv.map (Dotenv.declared around.vars true)).getD []
  let config ← ofConfig around.config
  ofSources [ofExplicit explicit, ofVariables file,
    ofVariables (around.vars.map fun (name, v) => (name, some v)), config]

end Settings

end DicePool
