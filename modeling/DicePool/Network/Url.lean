import DicePool.Network.Address
import DicePool.Network.DomainName
import DicePool.Number.Numeral
import DicePool.Text.Base64
import DicePool.Text.Case
import DicePool.Text.Percent

/-!
# Network/Url — addresses in one spelling

An address has a scheme, an authority, which is a host perhaps with a user and a port, a path, and
perhaps a query and a fragment.  `Url.parse` brings each part into the spelling in which it is sent: the
scheme and the host in lower case, a name in other scripts than ASCII as it is sent, no port that the
scheme implies, no `.` and `..` in the path, and escapes for whatever may not stand in a part.  An
address without a scheme or a host is relative.
-/

namespace DicePool

/-- Why a text is no address. -/
inductive UrlError where
  /-- It has too many characters. -/
  | tooLong
  /-- A part of it has too many characters. -/
  | longPart (name : String)
  /-- It has a control character at a position. -/
  | control (c : Char) (position : Nat)
  /-- The host looks like an address of version 4 and is none. -/
  | version4 (host : List Char)
  /-- The host stands in brackets and is no address of version 6. -/
  | version6 (host : List Char)
  /-- The host is no domain name. -/
  | domain (host : List Char)
  /-- The port is no number. -/
  | port (text : List Char)
  /-- The path of a relative address begins with this text. -/
  | pathStart (text : String)
deriving DecidableEq, Repr

/-- The text of the failure. -/
def UrlError.message : UrlError → String
  | .tooLong => "URL too long"
  | .longPart name => s!"URL component '{name}' too long"
  | .control c position =>
    "Invalid non-printable ASCII character in URL, " ++ quote [c] ++ s!" at position {position}."
  | .version4 host => "Invalid IPv4 address: " ++ quote host
  | .version6 host => "Invalid IPv6 address: " ++ quote host
  | .domain host => "Invalid IDNA hostname: " ++ quote host
  | .port text => "Invalid port: " ++ quote text
  | .pathStart text => s!"Relative URLs cannot have a path starting with '{text}'"
where
  /-- A text in quotes. -/
  quote (s : List Char) : String := String.ofList (Text.quoted s)

/-- An address in its one spelling. -/
structure Url where
  /-- The scheme, empty if there is none. -/
  scheme : List Char := []
  /-- The user, perhaps with a password, empty if there is none. -/
  user : List Char := []
  /-- The host, empty if there is none. -/
  host : List Char := []
  /-- The port, if it is told. -/
  port : Option Int := none
  /-- The path. -/
  path : List Char := []
  /-- The query, if there is one. -/
  query : Option (List Char) := none
  /-- The fragment, if there is one. -/
  fragment : Option (List Char) := none
deriving DecidableEq

namespace Url

/-- How many characters an address may have, and each part of it. -/
def maxLength : Nat := 65536

/-! ## The parts of a text -/

/-- The parts of an address as they are written. -/
structure Parts where
  /-- The scheme. -/
  scheme : List Char
  /-- The authority. -/
  authority : List Char
  /-- The path. -/
  path : List Char
  /-- The query, if there is one. -/
  query : Option (List Char)
  /-- The fragment, if there is one. -/
  fragment : Option (List Char)

/-- Splits at the first character of a kind, which belongs to neither side. -/
def splitAt (c : Char) (s : List Char) : List Char × Option (List Char) :=
  (s.takeWhile (· != c), (s.dropWhile (· != c)).tail?)

/-- Whether the character may stand in a scheme. -/
def isSchemeChar (c : Char) : Bool :=
  c.isAlphanum || c == '+' || c == '.' || c == '-'

/-- The scheme in front of a colon, and what follows it.  It may be empty. -/
def splitScheme (s : List Char) : List Char × List Char :=
  let scheme := s.takeWhile isSchemeChar
  match s.drop scheme.length with
  | ':' :: rest => if scheme.isEmpty || scheme.head?.any Char.isAlpha then (scheme, rest) else ([], s)
  | _ => ([], s)

/-- The parts of a text. -/
def Parts.ofText (s : List Char) : Parts :=
  let (scheme, rest) := splitScheme s
  let (beforeFragment, fragment) := splitAt '#' rest
  let (place, query) := splitAt '?' beforeFragment
  match place with
  | '/' :: '/' :: rest =>
    { scheme, authority := rest.takeWhile (· != '/'), path := rest.dropWhile (· != '/'), query, fragment }
  | path => { scheme, authority := [], path, query, fragment }

/-- The user, the host and the port of an authority, as they are written.  The user stands before the
last `@`, and a host may stand in brackets, with colons inside. -/
def splitAuthority (s : List Char) : List Char × List Char × List Char :=
  let back := s.reverse
  let place := (back.takeWhile (· != '@')).reverse
  let user := ((back.dropWhile (· != '@')).drop 1).reverse
  let inBrackets := ((place.reverse).dropWhile (· != ']')).reverse
  let host := if place.head? == some '[' && !inBrackets.isEmpty then inBrackets
    else place.takeWhile (· != ':')
  match place.drop host.length with
  | ':' :: port => (user, host, port)
  | port => (user, host, port)

/-! ## Each part in its one spelling -/

/-- Whether an ASCII character that prints is none of those. -/
def isPrintedExcept (reserved : List Char) (c : Char) : Bool :=
  ' ' < c && c < '\x7f' && !reserved.contains c

/-- What may not stand in a query. -/
def queryReserved : List Char := ['"', '#', '<', '>']

/-- What may not stand in a fragment. -/
def fragmentReserved : List Char := ['"', '<', '>', '\x60']

/-- What may not stand in a path. -/
def pathReserved : List Char := queryReserved ++ ['?', '\x60', '\x7b', '\x7d']

/-- What may not stand in a user with a password. -/
def userReserved : List Char := pathReserved ++ ['/', ';', '=', '@', '[', '\\', ']', '^', '|']

/-- Signs that may stand in a host. -/
def hostSigns : List Char := "-._~!$&'()*+,;=\"\x60\x7b\x7d%|\\".toList

/-- A part with escapes for the characters that may not stand in it. -/
def escape (reserved : List Char) (s : List Char) : List Char :=
  Text.Percent.escape (isPrintedExcept reserved) s

/-- A host as it is sent. -/
def hostOf (host : List Char) : Except UrlError (List Char) :=
  if host.isEmpty then .ok []
  else if Address.resemblesVersion4 host then
    if Address.isVersion4 host then .ok host else .error (.version4 host)
  else if host.head? == some '[' && host.getLast? == some ']' && 1 < host.length then
    let inner := (host.drop 1).dropLast
    if Address.isVersion6 inner then .ok inner else .error (.version6 host)
  else if host.all (·.toNat < 128) then
    .ok (Text.Percent.escape (fun c => c.isAlphanum || hostSigns.contains c) (host.map Char.toLower))
  else match DomainName.encode (Text.lower host) with
    | .ok name => .ok name
    | .error _ => .error (.domain host)

/-- The port that a scheme implies. -/
def defaultPort (scheme : String) : Option Int :=
  match scheme with
  | "http" => some 80
  | "https" => some 443
  | "ws" => some 80
  | "wss" => some 443
  | "ftp" => some 21
  | _ => none

/-- A port, unless it is the one that the scheme implies, which is compared as it is written. -/
def portOf (scheme text : List Char) : Except UrlError (Option Int) :=
  if text.isEmpty then .ok none
  else match Numeral.readWhole text with
    | .ok n => .ok (if defaultPort (String.ofList scheme) = some n then none else some n)
    | .error _ => .error (.port text)

/-- The steps of a path without `.` and without `..` and the step before it. -/
def dropDots (steps : List (List Char)) : List (List Char) :=
  (steps.foldl (fun done step =>
    if step == ['.'] then done
    else if step == ['.', '.'] then if done == [[]] then done else done.drop 1
    else step :: done) []).reverse

/-- A path without `.` and `..`. -/
def normalPath (path : List Char) : List Char :=
  let steps := path.splitOn '/'
  if steps.any fun s => s == ['.'] || s == ['.', '.'] then ['/'].intercalate (dropDots steps) else path

/-- Whether the address has a scheme or an authority. -/
def isPlaced (u : Url) : Bool :=
  !u.scheme.isEmpty || !u.user.isEmpty || !u.host.isEmpty || u.port.isSome

/-- The address with another path and query, which are written as parts of a text are. -/
def withPath (u : Url) (path : List Char) (query : Option (List Char)) : Except UrlError Url :=
  let steps := if u.isPlaced then normalPath path else path
  if !u.isPlaced && ['/', '/'].isPrefixOf path then .error (.pathStart "//")
  else if !u.isPlaced && path.head? == some ':' then .error (.pathStart ":")
  else .ok { u with path := escape pathReserved steps, query := query.map (escape queryReserved) }

/-- Whether the character is an ASCII control character. -/
def isControl (c : Char) : Bool :=
  c < ' ' || c == '\x7f'

/-- The address that a text spells. -/
def parse (text : String) : Except UrlError Url := do
  let s := text.toList
  if maxLength < s.length then throw .tooLong
  if let some i := s.findIdx? isControl then throw (.control (s.getD i ' ') i)
  let parts := Parts.ofText s
  let (user, host, port) := splitAuthority parts.authority
  let u : Url := {
    scheme := parts.scheme.map Char.toLower
    user := escape userReserved user
    host := ← hostOf host
    port := ← portOf parts.scheme port
    fragment := parts.fragment.map (escape fragmentReserved) }
  u.withPath parts.path parts.query

/-! ## What an address says -/

/-- Whether the address says where it leads. -/
def isAbsolute (u : Url) : Bool :=
  !u.scheme.isEmpty && !u.host.isEmpty

/-- The host and the port. -/
def place (u : Url) : List Char :=
  (if u.host.contains ':' then '[' :: u.host ++ [']'] else u.host)
    ++ (u.port.map fun n => ':' :: (toString n).toList).getD []

/-- The authority. -/
def authority (u : Url) : List Char :=
  (if u.user.isEmpty then [] else u.user ++ ['@']) ++ u.place

/-- The path and the query. -/
def target (u : Url) : List Char :=
  (if u.path.isEmpty then ['/'] else u.path) ++ (u.query.map ('?' :: ·)).getD []

/-- The text of the address. -/
def render (u : Url) : String :=
  String.ofList ((if u.scheme.isEmpty then [] else u.scheme ++ [':'])
    ++ (if u.authority.isEmpty then [] else '/' :: '/' :: u.authority)
    ++ u.path
    ++ (u.query.map ('?' :: ·)).getD []
    ++ (u.fragment.map ('#' :: ·)).getD [])

/-- The address that a relative one has under another, whose own path is the root. -/
def under (base u : Url) : Except UrlError Url :=
  let (path, query) := splitAt '?' ('/' :: u.target.dropWhile (· == '/'))
  if maxLength < path.length then .error (.longPart "path")
  else if query.any (maxLength < ·.length) then .error (.longPart "query")
  else base.withPath path query

/-- Who asks, as the user and the password of the address tell it. -/
def authorization? (u : Url) : Option String :=
  let (user, password) := splitAt ':' u.user
  let user := Text.Percent.unescape user
  let password := Text.Percent.unescape (password.getD [])
  if user.isEmpty && password.isEmpty then none
  else some ("Basic " ++ String.ofList
    (Text.Base64.encode (Text.Utf8.encode (String.ofList (user ++ ':' :: password)))))

/-- Checks a host that is sent as a name in Punycode: the name has to be one. -/
def checkHost (u : Url) : Except DomainError Unit :=
  if DomainName.mark.isPrefixOf u.host then (DomainName.decode u.host).map fun _ => () else .ok ()

end Url

end DicePool
