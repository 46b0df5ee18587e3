import DicePool.Discord.Followup

/-!
# Discord/Dispatch — running the command of an interaction

The command is looked up, its options are checked, and its handler is run and its reply delivered.
Whatever becomes of the handler, the run is bracketed: its start is reported, a failure is reported,
and its duration is measured and its end reported.  A failure of the handler is one of the dispatch.
-/

namespace DicePool.Discord

/-- How an interaction is served. -/
structure Service (σ : Type) where
  /-- The commands that there are. -/
  registry : Registry (Handler σ)
  /-- The settings. -/
  settings : Settings

/-- A command that was found, with what it was asked with. -/
structure Asked where
  /-- The name. -/
  name : String
  /-- The subcommand. -/
  subcommand : Option String
  /-- The options. -/
  options : Named Json
  /-- The user who asks. -/
  userId : String
  /-- The guild in which the user asks. -/
  guildId : Option String

namespace Asked

/-- What is reported at the start. -/
def initiated (a : Asked) : Event :=
  .info "command.initiated"
    [("command_name", .str a.name), ("subcommand", Json.strOrNull a.subcommand),
     ("options", .obj a.options), ("user_id", .str a.userId), ("guild_id", Json.strOrNull a.guildId)]

/-- What is reported about a failure. -/
def failed (a : Asked) : Event :=
  .error "command.error"
    [("command_name", .str a.name), ("subcommand", Json.strOrNull a.subcommand),
     ("user_id", .str a.userId), ("exc_info", .bool true)]

/-- What is reported at the end. -/
def completed (a : Asked) (status : String) (duration : Int) : Event :=
  .info "command.completed"
    [("command_name", .str a.name), ("subcommand", Json.strOrNull a.subcommand),
     ("user_id", .str a.userId), ("status", .str status), ("duration_ms", .int duration)]

/-- The histogram of durations. -/
def histogram (a : Asked) : String :=
  "command." ++ a.name ++ ".duration_ms"

/-- The answer to options that are not accepted. -/
def invalidOptions (a : Asked) : Reply :=
  { content := "❌ Invalid options for \x60" ++ a.name ++ "\x60.", ephemeral := true }

end Asked

variable {σ : Type}

/-- Runs a command between its reports. -/
def bracket (a : Asked) (duration : Int) (run : BotM σ Unit) : BotM σ Unit := do
  BotM.report a.initiated
  let outcome ← BotM.outcome run
  if outcome matches .error _ then
    BotM.report a.failed
  BotM.measure a.histogram duration
  BotM.report (a.completed (if outcome matches .ok _ then "success" else "error") duration)
  match outcome with
  | .ok _ => return ()
  | .error e => throw e

namespace Service

/-- Runs a command that was found. -/
def serve (service : Service σ) (recipient : Recipient) (duration : Int) (a : Asked)
    (c : Command (Handler σ)) : BotM σ Unit :=
  match c.form.check a.options with
  | .error _ => do
    BotM.count "command.options_error"
    deliver recipient a.invalidOptions
  | .ok values =>
    let inv : Invocation :=
      { name := a.name, subcommand := a.subcommand, userId := a.userId, guildId := a.guildId,
        settings := some service.settings, known := service.registry.names }
    bracket a duration do deliver recipient (← c.handler inv values)

/-- Runs the command of an interaction.  If it is local, replies may go to the other base; `duration`
is how long the handler takes, in milliseconds. -/
def dispatch (service : Service σ) (isLocal : Bool) (duration : Int) (i : Interaction) : BotM σ Unit :=
  match i.data.bind (·.name) with
  | none => throw .noCommand
  | some name =>
    let subcommand := i.subcommand
    match service.registry.find? name subcommand with
    | none =>
      BotM.report (.warning "command.unknown"
        [("command_name", .str name), ("subcommand", Json.strOrNull subcommand)])
    | some c => match i.options with
      | .error e => throw (.interaction e)
      | .ok options =>
        let recipient := ⟨.ofSettings service.settings isLocal, i.applicationId, i.token⟩
        service.serve recipient duration
          ⟨name, subcommand, options, i.userId, i.guildId⟩ c

end Service

end DicePool.Discord
