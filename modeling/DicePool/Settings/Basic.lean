import DicePool.Form.Basic

/-!
# Settings/Basic — what can be set

The settings are a record with a default for every field.  `Settings.form` says which values each field
accepts, `ofValues` reads a checked record, and `toValues` writes one.  `redacted` writes one that may
be shown: keys, tokens and secrets are blotted out.
-/

namespace DicePool

/-- The settings of a run. -/
structure Settings where
  /-- The name of the environment; local keys are trusted in `dev` only. -/
  env : String := "dev"
  /-- The id of the application. -/
  appId : Option String := none
  /-- The key that requests are verified with. -/
  publicKey : String := ""
  /-- Another key for requests that are signed locally. -/
  devPublicKey : Option String := none
  /-- The token of the bot. -/
  botToken : Option String := none
  /-- Where replies go instead, for requests that are signed locally. -/
  webhookOverride : Option String := none
  /-- How long a response may take, in seconds. -/
  responseTimeout : Int := 3
  /-- The port of the gateway. -/
  appPort : Int := 18000
  /-- The seed of the dice. -/
  diceSeed : Option Int := none
  /-- The largest pool. -/
  maxPool : Int := 100
  /-- How many dice may explode in one roll. -/
  maxExplosions : Int := 10000
  /-- Whether anything is logged. -/
  loggingEnabled : Bool := true
  /-- The level of the log. -/
  loggingLevel : String := "INFO"
  /-- The level on the console. -/
  loggingConsole : String := "INFO"
  /-- The level in the file. -/
  loggingFile : String := "INFO"
  /-- The path of the file. -/
  loggingPath : String := "logs/darkroller.jsonl"
  /-- The size at which the file is rotated. -/
  loggingMaxBytes : Int := 5000000
  /-- How many rotated files are kept. -/
  loggingBackups : Int := 5
  /-- Whether the metrics can be read over the network. -/
  metricsEnabled : Bool := false
deriving DecidableEq, Repr

namespace Settings

/-- The fields and the values that they accept. -/
def form : Form :=
  let text : Shape := .text none
  let whole : Shape := .whole none
  [⟨"env", text, some (.str "dev"), none⟩,
   ⟨"discord_app_id", .nullable text, some .null, none⟩,
   ⟨"discord_public_key", text, some (.str ""), none⟩,
   ⟨"discord_dev_public_key", .nullable text, some .null, none⟩,
   ⟨"discord_bot_token", .nullable text, some .null, none⟩,
   ⟨"discord_webhook_url_override", .nullable text, some .null, none⟩,
   ⟨"response_timeout_seconds", whole, some (.int 3), none⟩,
   ⟨"app_port", whole, some (.int 18000), none⟩,
   ⟨"dice_seed", .nullable whole, some .null, none⟩,
   ⟨"dice_max_pool", .whole (some 1), some (.int 100), none⟩,
   ⟨"dice_max_explosions", .whole (some 1), some (.int 10000), none⟩,
   ⟨"logging_enabled", .truth, some (.bool true), none⟩,
   ⟨"logging_level", text, some (.str "INFO"), none⟩,
   ⟨"logging_console", text, some (.str "INFO"), none⟩,
   ⟨"logging_file", text, some (.str "INFO"), none⟩,
   ⟨"logging_file_path", text, some (.str "logs/darkroller.jsonl"), none⟩,
   ⟨"logging_max_bytes", whole, some (.int 5000000), none⟩,
   ⟨"logging_backup_count", whole, some (.int 5), none⟩,
   ⟨"metrics_endpoint_enabled", .truth, some (.bool false), none⟩]

/-- The names of the fields. -/
def fieldNames : List String :=
  form.map (·.name)

/-- The settings of a checked record. -/
def ofValues (values : Named Json) : Settings :=
  let text (name : String) : Option String := (values.get? name).bind Json.str?
  let whole (name : String) : Option Int := (values.get? name).bind Json.int?
  let truth (name : String) (fallback : Bool) : Bool :=
    ((values.get? name).bind Json.bool?).getD fallback
  { env := (text "env").getD "dev"
    appId := text "discord_app_id"
    publicKey := (text "discord_public_key").getD ""
    devPublicKey := text "discord_dev_public_key"
    botToken := text "discord_bot_token"
    webhookOverride := text "discord_webhook_url_override"
    responseTimeout := (whole "response_timeout_seconds").getD 3
    appPort := (whole "app_port").getD 18000
    diceSeed := whole "dice_seed"
    maxPool := (whole "dice_max_pool").getD 100
    maxExplosions := (whole "dice_max_explosions").getD 10000
    loggingEnabled := truth "logging_enabled" true
    loggingLevel := (text "logging_level").getD "INFO"
    loggingConsole := (text "logging_console").getD "INFO"
    loggingFile := (text "logging_file").getD "INFO"
    loggingPath := (text "logging_file_path").getD "logs/darkroller.jsonl"
    loggingMaxBytes := (whole "logging_max_bytes").getD 5000000
    loggingBackups := (whole "logging_backup_count").getD 5
    metricsEnabled := truth "metrics_endpoint_enabled" false }

/-- The settings as a record. -/
def toValues (s : Settings) : Named Json :=
  [("env", .str s.env),
   ("discord_app_id", Json.strOrNull s.appId),
   ("discord_public_key", .str s.publicKey),
   ("discord_dev_public_key", Json.strOrNull s.devPublicKey),
   ("discord_bot_token", Json.strOrNull s.botToken),
   ("discord_webhook_url_override", Json.strOrNull s.webhookOverride),
   ("response_timeout_seconds", .int s.responseTimeout),
   ("app_port", .int s.appPort),
   ("dice_seed", Json.ofOption .int s.diceSeed),
   ("dice_max_pool", .int s.maxPool),
   ("dice_max_explosions", .int s.maxExplosions),
   ("logging_enabled", .bool s.loggingEnabled),
   ("logging_level", .str s.loggingLevel),
   ("logging_console", .str s.loggingConsole),
   ("logging_file", .str s.loggingFile),
   ("logging_file_path", .str s.loggingPath),
   ("logging_max_bytes", .int s.loggingMaxBytes),
   ("logging_backup_count", .int s.loggingBackups),
   ("metrics_endpoint_enabled", .bool s.metricsEnabled)]

/-- **A record of settings reads back.** -/
theorem ofValues_toValues (s : Settings) : ofValues s.toValues = s := by
  have unfolded : ofValues s.toValues = { s with
      appId := (Json.strOrNull s.appId).str?
      devPublicKey := (Json.strOrNull s.devPublicKey).str?
      botToken := (Json.strOrNull s.botToken).str?
      webhookOverride := (Json.strOrNull s.webhookOverride).str?
      diceSeed := (Json.ofOption .int s.diceSeed).int? } := rfl
  rw [unfolded]
  simp only [Json.str?_strOrNull, Json.int?_ofOption]

/-- Whether the value of a field is kept from view. -/
def isSecret (name : String) : Bool :=
  ["_token", "_secret", "_key"].any fun ending => ending.toList.isSuffixOf name.toList

/-- The settings as a record that may be shown. -/
def redacted (s : Settings) : Named Json :=
  s.toValues.map fun (name, v) => (name, if isSecret name then .str "[REDACTED]" else v)

end Settings

end DicePool
