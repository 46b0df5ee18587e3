import DicePool.Json.Printer
import DicePool.Network.Url

/-!
# Network — requests and their responses

The network is a list of answers, one for each request, and a record of the requests that were sent.
After the last answer every request is answered by an empty success.  A request whose address is no
address, or that says who asks in other characters than ASCII, is not sent at all; one whose address is
relative is sent, but its response is of no use.  A response that is no success, or no response, is a
`DeliveryError`.
-/

namespace DicePool

/-- How a request fails to be answered at all. -/
inductive Outage where
  /-- No connection came about. -/
  | connect
  /-- The answer took too long. -/
  | timeout
deriving DecidableEq, Repr

/-- What comes back from a request. -/
structure Response where
  /-- The status. -/
  status : Int
  /-- The text. -/
  body : String
deriving DecidableEq, Repr

/-- An answer to come. -/
inductive Answer where
  /-- A response. -/
  | response (r : Response)
  /-- No response. -/
  | outage (kind : Outage) (message : String)
deriving DecidableEq, Repr

/-- The answer when none is prepared. -/
def Answer.accepted : Answer := .response ⟨204, ""⟩

/-- A request. -/
structure WebRequest where
  /-- The method. -/
  method : String
  /-- The address. -/
  url : String
  /-- The body, if there is one. -/
  body : Option Json := none
  /-- The type of the body, if it is told. -/
  contentType : Option String := none
  /-- Who asks, if it is told. -/
  authorization : Option String := none

/-- Why a request was in vain. -/
inductive DeliveryError where
  /-- The address is no address. -/
  | url (e : UrlError)
  /-- The host is no name. -/
  | domain (e : DomainError)
  /-- The address does not say where it leads. -/
  | relative (text : String)
  /-- Who asks cannot be told in ASCII. -/
  | authorization
  /-- There was no response. -/
  | outage (kind : Outage) (message : String)
  /-- The response was no success. -/
  | status (code : Int)
deriving DecidableEq, Repr

/-- The text of the failure. -/
def DeliveryError.message : DeliveryError → String
  | .url e => e.message
  | .domain e => e.message
  | .relative text => "unknown url type: " ++ String.ofList (Text.quoted text.toList)
  | .authorization => "authorization is not ASCII"
  | .outage _ message => message
  | .status code => s!"status {code}"

/-- Whether a status is a success. -/
def isSuccessStatus (code : Int) : Bool :=
  200 ≤ code && code < 300

/-- A response, if it is a success. -/
def Response.success (r : Response) : Except DeliveryError Response :=
  if isSuccessStatus r.status then .ok r else .error (.status r.status)

/-- Answers to come and requests sent. -/
structure Network where
  /-- The answers, in order. -/
  answers : List Answer := []
  /-- The requests, in order. -/
  sent : Array WebRequest := #[]

namespace Network

/-- Takes the next answer. -/
def take (n : Network) : Answer × List Answer :=
  match n.answers with
  | [] => (.accepted, [])
  | a :: rest => (a, rest)

/-- What is made of an answer to a request at an address. -/
def outcomeOf (url : Url) : Answer → Except DeliveryError Response
  | .response response => if url.isAbsolute then .ok response else .error (.relative url.render)
  | .outage kind message => .error (.outage kind message)

/-- The address that a request is sent to; a relative one is the path on a host that is not told. -/
def addressOf (r : WebRequest) : Except DeliveryError Url := do
  let url ← (Url.parse r.url).mapError .url
  let url ← if url.isAbsolute then pure url else (Url.under {} url).mapError .url
  if !(r.authorization.getD "").toList.all (· ≤ '\x7f') then throw .authorization
  url.checkHost.mapError .domain
  return url

/-- Sends a request and takes its answer.  Who asks is told by the address, if it tells it. -/
def send (n : Network) (r : WebRequest) : Except DeliveryError Response × Network :=
  match addressOf r with
  | .error e => (.error e, n)
  | .ok url =>
    let (answer, rest) := n.take
    let sent := { r with url := url.render, authorization := url.authorization? <|> r.authorization }
    (outcomeOf url answer, { answers := rest, sent := n.sent.push sent })

end Network

end DicePool
