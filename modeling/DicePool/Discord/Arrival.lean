import DicePool.Named
import DicePool.Network.Url

/-!
# Discord/Arrival — a request as it arrives

A request names its target by an address, which is mostly relative to the address of the gateway.  It
arrives with the path of that address, without escapes.  In reports the path is shown as far as the next
mark of a query or a fragment, which an escape may have brought in.
-/

namespace DicePool.Discord

/-- A request that arrives. -/
structure Arrival where
  /-- The method. -/
  method : String
  /-- The path. -/
  path : String
  /-- The headers. -/
  headers : Named String
  /-- The body. -/
  body : List UInt8

/-- Why a request does not arrive. -/
inductive ArrivalError where
  /-- The target is no address. -/
  | url (e : UrlError)
  /-- The host of the target is no name. -/
  | domain (e : DomainError)
  /-- A header is not ASCII. -/
  | header
deriving DecidableEq, Repr

/-- The text of the failure. -/
def ArrivalError.message : ArrivalError → String
  | .url e => e.message
  | .domain e => e.message
  | .header => "header is not ASCII"

namespace Arrival

/-- The address of the gateway. -/
def gateway : Url := { scheme := "http".toList, host := "testserver".toList }

/-- The address that a target names. -/
def addressOf (target : String) : Except ArrivalError Url := do
  let u ← (Url.parse target).mapError .url
  if u.isAbsolute then return u
  (gateway.under u).mapError .url

/-- Whether a text is ASCII. -/
def isPlain (s : String) : Bool :=
  s.toList.all (·.toNat < 128)

/-- The request with a method, a target, headers and a body. -/
def ofText (method target : String) (headers : Named String) (body : List UInt8) :
    Except ArrivalError Arrival := do
  let address ← addressOf target
  if !headers.all fun (name, value) => isPlain name && isPlain value then throw .header
  address.checkHost.mapError .domain
  return {
    method := String.ofList (Text.upper method.toList)
    path := String.ofList (Text.Percent.unescape (if address.path.isEmpty then ['/'] else address.path))
    headers
    body }

/-- The path as it is shown. -/
def shownPath (a : Arrival) : String :=
  String.ofList ((a.path.toList.filter fun c => c != '\t' && c != '\n' && c != '\r').takeWhile
    fun c => c != '?' && c != '#')

/-- The value of a header, whose name is read in any case. -/
def header? (a : Arrival) (name : String) : Option String :=
  (a.headers.find? fun h => Text.lower h.1.toList == Text.lower name.toList).map (·.2)

/-- The signature, if there is one. -/
def signature? (a : Arrival) : Option String :=
  (a.header? "X-Signature-Ed25519").filter (· ≠ "")

/-- The timestamp, if there is one. -/
def timestamp? (a : Arrival) : Option String :=
  (a.header? "X-Signature-Timestamp").filter (· ≠ "")

end Arrival

end DicePool.Discord
