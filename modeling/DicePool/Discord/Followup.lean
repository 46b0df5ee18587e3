import DicePool.Bot.Session

/-!
# Discord/Followup — how replies are delivered

A reply is sent to the webhook of the interaction, which lies under a base address.  The settings may
name another base for requests that are signed locally.  A delivery that fails is reported; with the
other base that is all, and with the base proper the failure is one of the command.
-/

namespace DicePool.Discord

/-- The base address of the service. -/
def apiBase : String := "https://discord.com/api/v10"

/-- The mark of replies that only the asker sees. -/
def ephemeralFlag : Int := 64

/-- The base address that replies are sent under. -/
inductive Base where
  /-- The service proper. -/
  | standard
  /-- Another address. -/
  | override (url : String)
deriving DecidableEq, Repr

namespace Base

/-- The base under settings; another one is used only if that is allowed. -/
def ofSettings (settings : Settings) (allowed : Bool) : Base :=
  match settings.webhookOverride with
  | some url => if url ≠ "" ∧ allowed then .override url else .standard
  | none => .standard

/-- The address, without slashes at its end. -/
def url : Base → String
  | .standard => apiBase
  | .override url => String.ofList (Text.dropEndWhile (· == '/') url.toList)

/-- The word for the base. -/
def source : Base → String
  | .standard => "default"
  | .override _ => "settings_override"

end Base

/-- Where a reply goes. -/
structure Recipient where
  /-- The base address. -/
  base : Base
  /-- The application that was asked. -/
  applicationId : String
  /-- The token of the interaction. -/
  token : String
deriving DecidableEq, Repr

namespace Recipient

/-- The address of the webhook. -/
def url (r : Recipient) : String :=
  r.base.url ++ "/webhooks/" ++ r.applicationId ++ "/" ++ r.token

/-- The request that delivers a reply. -/
def request (r : Recipient) (reply : Reply) : WebRequest where
  method := "POST"
  url := r.url
  body := some (.obj [("content", .str reply.content),
    ("flags", .int (if reply.ephemeral then ephemeralFlag else 0))])
  contentType := some "application/json"

end Recipient

/-- How much of the text of a failed response is reported. -/
def previewLength : Nat := 200

/-- What is reported before a reply is sent. -/
def sendEvent (base : Base) (reply : Reply) : Event :=
  .info "discord.followup.send"
    [("ephemeral", .bool reply.ephemeral), ("content_len", .int reply.content.length),
     ("base_url_source", .str base.source)]

/-- What is reported about an outcome; an address that is no address is not reported. -/
def outcomeEvents (base : Base) : Except DeliveryError Response → Journal
  | .ok r =>
    if isSuccessStatus r.status then
      [.info "discord.followup.sent" [("http_status_code", .int r.status)]]
    else
      [.error "discord.followup.http_error"
        [("http_status_code", .int r.status),
         ("text_preview", .str (String.ofList (r.body.toList.take previewLength))),
         ("base_url_source", .str base.source)]]
  | .error (.outage _ message) =>
    [.error "discord.followup.network_error"
      [("error", .str message), ("base_url_source", .str base.source)]]
  | .error _ => []

/-- The failure of the command that a failed delivery is, if it is one. -/
def faultOf (base : Base) (outcome : Except DeliveryError Response) : Option Fault :=
  match outcome.bind Response.success, base with
  | .ok _, _ => none
  | .error e, .standard => some (.delivery e)
  | .error (.outage ..), .override _ => none
  | .error (.status _), .override _ => none
  | .error e, .override _ => some (.delivery e)

/-- Delivers a reply. -/
def deliver {σ : Type} (recipient : Recipient) (reply : Reply) : BotM σ Unit := do
  BotM.report (sendEvent recipient.base reply)
  let outcome ← BotM.exchange (recipient.request reply)
  BotM.reportAll (outcomeEvents recipient.base outcome)
  match faultOf recipient.base outcome with
  | some e => throw e
  | none => return ()

end DicePool.Discord
