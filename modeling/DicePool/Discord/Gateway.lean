import DicePool.Discord.Arrival
import DicePool.Discord.Dispatch
import DicePool.Text.Hex

/-!
# Discord/Gateway — the requests that arrive

Three routes are served: interactions are posted to `/interactions`, `/healthz` says whether the
commands are there, and `/metrics` shows the counters where the settings allow it.  Beside them the routes
are described, and a path with a slash too many or too few leads on to the right one.  An interaction has
to be signed over its timestamp and its body.  A ping is answered at once, and a command is answered by
the promise of a reply and then dispatched.
-/

namespace DicePool.Discord

/-- What is answered. -/
structure Answered where
  /-- The status. -/
  status : Int
  /-- The body. -/
  body : Json

/-- The answer to a request that is refused. -/
def refusal (status : Int) (detail : String) : Answered :=
  ⟨status, .obj [("detail", .str detail)]⟩

/-! ## Signatures -/

/-- A check of a key, a message and a signature. -/
abbrev Verifier := List UInt8 → List UInt8 → List UInt8 → Bool

/-- Whether a signature in hexadecimal is valid for a timestamp and a body. -/
def isAuthentic (verify : Verifier) (key timestamp : String) (body : List UInt8)
    (signature : String) : Bool :=
  if key = "" then false
  else match Text.hexBytes? key.toList, Text.hexBytes? signature.toList with
    | some key, some signature => verify key (Text.Utf8.encode timestamp ++ body) signature
    | _, _ => false

/-- What is reported about a key before it is used. -/
def keyJournal (key : String) : Journal :=
  if key = "" then [.warning "crypto.verify.no_public_key" []] else []

/-- Whether a request is signed locally: it says so, the environment is `dev`, and there is a key. -/
def isLocal (settings : Settings) (a : Arrival) : Bool :=
  a.header? "X-Darkroller-Use-Dev-Key" == some "1" && settings.env == "dev"
    && settings.devPublicKey.any (· ≠ "")

/-- The key that a request is verified with. -/
def keyOf (settings : Settings) (a : Arrival) : String :=
  if isLocal settings a then settings.devPublicKey.getD "" else settings.publicKey

/-! ## Interactions -/

/-- The gateway: a service and a way to verify signatures. -/
structure Gateway (σ : Type) extends Service σ where
  /-- How signatures are verified. -/
  verify : Verifier

/-- What becomes of a request: what is answered, and how the command that it starts fails, if it
does. -/
structure Served where
  /-- The answer. -/
  answered : Answered
  /-- The failure of the command. -/
  fault : Option Fault := none

/-- How much of a body that is no interaction is reported. -/
def bodyPreviewLength : Nat := 200

/-- Whether an interaction asks for a command. -/
def Interaction.asksCommand (i : Interaction) : Bool :=
  i.kind == 2 && (i.data.bind (·.name)).isSome

namespace Gateway

variable {σ : Type}

/-- Serving a request; nothing fails. -/
abbrev ServeM (σ : Type) := StateM (Session σ)

/-- Reports events in order. -/
def report (l : Journal) : ServeM σ Unit :=
  modify fun s => { s with journal := s.journal ++ l }

/-- Serves an interaction that is authentic. -/
def interaction (g : Gateway σ) (isLocal : Bool) (body : List UInt8) : ServeM σ Served := do
  match Interaction.ofBytes body with
  | .error _ =>
    let preview := String.ofList (Text.Utf8.decodeLossy (body.take bodyPreviewLength))
    report [.error "discord.request.parse_error" [("raw_body_preview", .str preview)]]
    return { answered := refusal 400 "invalid interaction payload" }
  | .ok i =>
    if i.kind = 1 then
      return { answered := ⟨200, .obj [("type", .int 1)]⟩ }
    else
      let deferred : Answered := ⟨200, .obj [("type", .int 5)]⟩
      if i.asksCommand then
        match ← (g.dispatch isLocal 0 i).run with
        | .ok _ => return { answered := deferred }
        | .error e => return { answered := deferred, fault := some e }
      else return { answered := deferred }

/-- Serves a request to `/interactions`. -/
def interactions (g : Gateway σ) (a : Arrival) : ServeM σ Served := do
  report [.info "discord.request.received"
    [("http_path", .str a.shownPath), ("has_sig", .bool a.signature?.isSome),
     ("has_ts", .bool a.timestamp?.isSome)]]
  match a.signature?, a.timestamp? with
  | some signature, some timestamp =>
    let isLocal := isLocal g.settings a
    let key := keyOf g.settings a
    report (keyJournal key)
    if isAuthentic g.verify key timestamp a.body signature then
      g.interaction isLocal a.body
    else
      report [.error "discord.request.bad_signature" [("use_dev_key", .bool isLocal)]]
      return { answered := refusal 401 "bad signature" }
  | _, _ =>
    report [.error "discord.request.missing_signature" []]
    return { answered := refusal 401 "missing signature headers" }

/-- The answer on health. -/
def health (g : Gateway σ) : Answered :=
  if (g.registry.find? "roll" none).isSome then ⟨200, .obj [("status", .str "ok")]⟩
  else refusal 500 "unhealthy: roll command not registered"

/-- The answer on counters. -/
def counters (g : Gateway σ) (m : Metrics) : Answered :=
  if g.settings.metricsEnabled then ⟨200, .obj (m.flatten.map fun (name, n) => (name, .int n))⟩
  else refusal 404 "metrics disabled"

/-! ## Routes -/

/-- What is served. -/
inductive Route where
  /-- Interactions. -/
  | interactions
  /-- Health. -/
  | health
  /-- Counters. -/
  | counters
  /-- A description of these three. -/
  | description
  /-- A page about them for people. -/
  | page
deriving DecidableEq, Repr

/-- The route of a path; a line feed at its end does not count. -/
def route? (path : String) : Option Route :=
  let path := match path.toList.reverse with
    | '\n' :: rest => String.ofList rest.reverse
    | _ => path
  match path with
  | "/interactions" => some .interactions
  | "/healthz" => some .health
  | "/metrics" => some .counters
  | "/openapi.json" => some .description
  | "/docs" => some .page
  | "/docs/oauth2-redirect" => some .page
  | "/redoc" => some .page
  | _ => none

/-- The methods that a route is asked with. -/
def Route.methods : Route → List String
  | .interactions => ["POST"]
  | .health => ["GET"]
  | .counters => ["GET"]
  | .description => ["GET", "HEAD"]
  | .page => ["GET", "HEAD"]

/-- The description of an operation, whose title is `title`. -/
def operation (path method title name : String) : String × Json :=
  let success : Json := .obj [("description", .str "Successful Response"),
    ("content", .obj [("application/json", .obj [("schema", .obj [])])])]
  ("/" ++ path, .obj [(method, .obj [("summary", .str title), ("operationId", .str name),
    ("responses", .obj [("200", success)])])])

/-- The description of the routes. -/
def description : Json :=
  .obj [("openapi", .str "3.1.0"),
    ("info", .obj [("title", .str "Darkroller"), ("version", .str "0.1.0")]),
    ("paths", .obj [
      operation "interactions" "post" "Interactions" "interactions_interactions_post",
      operation "healthz" "get" "Healthz" "healthz_healthz_get",
      operation "metrics" "get" "Metrics" "metrics_metrics_get"])]

/-- Serves a request along a route.  The text of a page is none of the gateway's own. -/
def follow (g : Gateway σ) (a : Arrival) : Route → ServeM σ Served
  | .interactions => g.interactions a
  | .health => return { answered := g.health }
  | .counters => do return { answered := g.counters (← get).metrics }
  | .description => return { answered := ⟨200, description⟩ }
  | .page => return { answered := ⟨200, .null⟩ }

/-- The path without slashes at its end, or with one if there is none. -/
def otherPath (path : String) : String :=
  match path.toList.reverse with
  | '/' :: rest => String.ofList (rest.dropWhile (· == '/')).reverse
  | _ => path ++ "/"

/-- The answer to a request for a path that has no route. -/
def unrouted (path : String) : Answered :=
  if path ≠ "/" ∧ (route? (otherPath path)).isSome then ⟨307, .null⟩ else refusal 404 "Not Found"

/-- Finds the route of a request and serves it. -/
def serveRoute (g : Gateway σ) (a : Arrival) : ServeM σ Served :=
  match route? a.path with
  | none => return { answered := unrouted a.path }
  | some route =>
    if a.method ∈ route.methods then g.follow a route
    else return { answered := refusal 405 "Method Not Allowed" }

/-- An answer as it is sent to a request of a method: one to `HEAD` has no body. -/
def sentTo (method : String) (answered : Answered) : Answered :=
  if method = "HEAD" then { answered with body := .null } else answered

/-- Serves a request and reports its end. -/
def handle (g : Gateway σ) (a : Arrival) : ServeM σ Served := do
  let served ← g.serveRoute a
  report [.info "http.request.completed"
    [("http_path", .str a.shownPath), ("http_method", .str a.method),
     ("http_status_code", .int served.answered.status), ("duration_ms", .int 0)]]
  return { served with answered := sentTo a.method served.answered }

/-- Reports the start of the gateway. -/
def startup (g : Gateway σ) : ServeM σ Unit :=
  report [.info "app.startup" [("config", .obj g.settings.redacted)]]

end Gateway

end DicePool.Discord
