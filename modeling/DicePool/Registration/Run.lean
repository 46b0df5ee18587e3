import DicePool.Discord.Payload
import DicePool.Json.Reader
import DicePool.Network
import DicePool.Registration.Arguments
import DicePool.Registration.Status
import DicePool.Settings.Sources
import DicePool.Text.Encoding

/-!
# Registration/Run — registering commands

A run reads who asks and for which scope from the environment, asks the service what is registered,
registers or withdraws commands one by one, and shows the status.  A write that fails is told and does
not stop the others; a listing that fails ends the run.
-/

namespace DicePool.Registration

/-- The base address of the service. -/
def apiBase : String := "https://discord.com/api/v10"

/-! ## Who and where -/

/-- Who asks. -/
structure Account where
  /-- The id of the application. -/
  applicationId : String
  /-- The token of the bot. -/
  token : String
deriving DecidableEq, Repr

/-- Where commands are registered. -/
inductive Scope where
  /-- Everywhere. -/
  | everywhere
  /-- In a guild. -/
  | guild (id : String)
deriving DecidableEq, Repr

/-- What the environment lacks. -/
inductive SetupError where
  /-- A variable. -/
  | variable (name : String)
  /-- The guild. -/
  | guild
deriving DecidableEq, Repr

/-- The text of the failure. -/
def SetupError.message : SetupError → String
  | .variable name => "Error: Missing required environment variable: '" ++ name ++ "'"
  | .guild => "Error: DISCORD_GUILD_ID must be set for guild-scoped commands."

/-- The variables, with those of the file `.env.local`, or else `.env`, that are not set otherwise. -/
def varsOf (around : Environment) : Named String :=
  let file := (around.dotenvLocal <|> around.dotenv).getD ""
  let declared := Dotenv.declared around.vars false file
  around.vars ++ declared.filterMap fun (name, value) =>
    if (around.vars.get? name).isSome then none else value.map fun v => (name, v)

/-- The value of a variable that has to be set. -/
def required (vars : Named String) (name : String) : Except SetupError String :=
  match vars.get? name with
  | some v => .ok v
  | none => .error (.variable name)

/-- Who asks. -/
def accountOf (vars : Named String) : Except SetupError Account := do
  let applicationId ← match (vars.get? "DISCORD_APPLICATION_ID").filter (· ≠ "") with
    | some id => .ok id
    | none => required vars "DISCORD_APP_ID"
  return ⟨applicationId, ← required vars "DISCORD_BOT_TOKEN"⟩

/-- Where commands are registered.  An empty id names no guild. -/
def scopeOf (vars : Named String) : GuildChoice → Except SetupError Scope
  | .none => .ok .everywhere
  | .id s => .ok (if s = "" then .everywhere else .guild s)
  | .fromEnvironment => match (vars.get? "DISCORD_GUILD_ID").filter (· ≠ "") with
    | some id => .ok (.guild id)
    | none => .error .guild

/-- The address of the commands of a scope. -/
def commandUrl (applicationId : String) : Scope → String
  | .everywhere => apiBase ++ "/applications/" ++ applicationId ++ "/commands"
  | .guild id => apiBase ++ "/applications/" ++ applicationId ++ "/guilds/" ++ id ++ "/commands"

/-- The name of a scope. -/
def Scope.name : Scope → String
  | .everywhere => "global"
  | .guild id => "guild " ++ id

/-! ## Requests -/

/-- Why a run ends early. -/
inductive Fault where
  /-- A request was in vain. -/
  | delivery (e : DeliveryError)
  /-- A listing is no text. -/
  | notText
  /-- A listing is no JSON. -/
  | notJson (text : List Char) (fault : Json.Reader.Fault)
  /-- A listing is not one of commands. -/
  | listing (e : ListingError)
deriving DecidableEq, Repr

/-- The text of the failure. -/
def Fault.message : Fault → String
  | .delivery e => e.message
  | .notText => "not a text"
  | .notJson text fault => fault.message text
  | .listing e => e.message

/-- What a run leaves: the network and what it prints. -/
structure Console where
  /-- The network. -/
  network : Network
  /-- What is printed. -/
  out : String := ""

/-- Running. -/
abbrev RunM := ExceptT Fault (StateM Console)

/-- Prints a text. -/
def write (text : String) : RunM Unit :=
  modify fun c => { c with out := c.out ++ text }

/-- Sends a request. -/
def send (r : WebRequest) : RunM Response := do
  let outcome ← modifyGet fun c =>
    let (outcome, network) := c.network.send r
    (outcome, { c with network })
  match outcome with
  | .ok response => return response
  | .error e => throw (.delivery e)

/-- A request to an address. -/
def requestTo (account : Account) (method url : String) (body : Option Json) : WebRequest where
  method := method
  url := url
  body := body
  contentType := some "application/json"
  authorization := some ("Bot " ++ account.token)

/-- How deep a listing may be nested and how long its numbers may be. -/
def listingLimits : Json.Reader.Limits :=
  { nesting := some 970, digits := some Numeral.maxDigits, halves := true }

/-- The text of a body, without a byte order mark in front. -/
def textOfBody? (body : String) : Option (List Char) :=
  match body.toList with
  | '\ufeff' :: text => some text
  | _ =>
    let bytes := Text.Utf8.encode body
    (Text.Encoding.detect bytes).decode? bytes

/-- The value of a body. -/
def valueOfBody (body : String) : Except Fault Json :=
  match textOfBody? body with
  | none => .error .notText
  | some text => (Json.ofChars listingLimits text).mapError (.notJson text)

/-- The commands that are registered. -/
def fetch (account : Account) (url : String) : RunM Json := do
  let response ← send (requestTo account "GET" url none)
  match response.success with
  | .error e => throw (.delivery e)
  | .ok response => match valueOfBody response.body with
    | .ok v => return v
    | .error e => throw e

/-- What is printed about a write. -/
def writeLine (isDone : Bool) (done failed name : String) (status : Int) : String :=
  if isDone then done ++ ": " ++ name ++ "\n"
  else "Failed to " ++ failed ++ " " ++ name ++ ". Status: " ++ toString status ++ "\n"

/-- Registers a command. -/
def register (account : Account) (url : String) (c : Discord.CommandSpec) : RunM Unit := do
  let response ← send (requestTo account "POST" url (some c.toJson))
  write (writeLine (response.status = 200 ∨ response.status = 201) "Registered" "register" c.name
    response.status)

/-- Goes on with a part of a listing, or ends the run. -/
def listed {α : Type} (r : Except ListingError α) : RunM α :=
  match r with
  | .ok a => return a
  | .error e => throw (.listing e)

/-- Withdraws a registered command, if it is one of those that there are. -/
def unregister (account : Account) (url : String) (commands : List Discord.CommandSpec)
    (registered : Json) : RunM Unit := do
  let name ← listed (nameOf registered)
  if commands.any fun c => Json.same (.str c.name) name then
    let id ← listed (fieldOf "id" registered >>= textOf)
    let response ← send (requestTo account "DELETE" (url ++ "/" ++ id) none)
    write (writeLine (response.status = 204) "Unregistered" "unregister" (← listed (textOf name))
      response.status)

/-- Withdraws the registered commands that there are, one by one. -/
def unregisterAll (account : Account) (url : String) (commands : List Discord.CommandSpec)
    (registered : Json) : RunM Unit := do
  (← listed (itemsOf registered)).forM (unregister account url commands)

/-- Shows the status. -/
def showStatus (commands : List Discord.CommandSpec) (registered : Json) (scope : Scope) :
    RunM Unit := do
  write (statusTitle scope.name)
  write (← listed (statusTable (.arr (commands.map Discord.CommandSpec.toJson)) registered))

/-- Does what is asked. -/
def perform (account : Account) (scope : Scope) (commands : List Discord.CommandSpec)
    (action : Action) : RunM Unit := do
  let url := commandUrl account.applicationId scope
  let registered ← fetch account url
  match action with
  | .status => showStatus commands registered scope
  | .register =>
    commands.forM (register account url)
    showStatus commands (← fetch account url) scope
  | .unregister =>
    unregisterAll account url commands registered
    showStatus commands (← fetch account url) scope

/-! ## The program -/

/-- How a run ends. -/
structure Outcome where
  /-- The exit code, unless the run ends early. -/
  result : Except Fault Nat
  /-- What is printed. -/
  out : String
  /-- What is printed about errors. -/
  err : String
  /-- The network. -/
  network : Network

/-- Who asks, and where. -/
def setup (around : Environment) (guild : GuildChoice) : Except SetupError (Account × Scope) := do
  let vars := varsOf around
  return (← accountOf vars, ← scopeOf vars guild)

/-- The width of a screen where the environment names none. -/
def defaultScreen : Nat := 80

/-- The width of the screen: what the variable `COLUMNS` says, if it is a positive number. -/
def screenOf (vars : Named String) : Nat :=
  match (vars.get? "COLUMNS").map fun text => Numeral.readWhole text.toList with
  | some (.ok n) => if 0 < n then n.toNat else defaultScreen
  | _ => defaultScreen

/-- Runs the program.  What it says about its arguments leaves two columns of the screen free. -/
def run (commands : List Discord.CommandSpec) (around : Environment) (network : Network)
    (args : List String) : Outcome :=
  let columns := screenOf around.vars - 2
  match Arguments.parse args with
  | .error .help => ⟨.ok 0, usage columns, "", network⟩
  | .error (.error e) => ⟨.ok 2, "", e.report columns, network⟩
  | .ok asked => match setup around asked.guild with
    | .error e => ⟨.ok 1, e.message ++ "\n", "", network⟩
    | .ok (account, scope) =>
      let (outcome, console) := (perform account scope commands asked.action).run.run { network }
      ⟨outcome.map fun _ => 0, console.out, "", console.network⟩

end DicePool.Registration
