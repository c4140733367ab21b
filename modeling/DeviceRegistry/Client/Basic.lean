import DeviceRegistry.Client.Error
import DeviceRegistry.Credential.Codec
import DeviceRegistry.Management.Service
import DeviceRegistry.Trust.Certificate

/-!
# `DeviceRegistry.Client.Basic`: asking a registry

A client reads and replaces the credentials of a device by requests to a registry. It is a function
of what the server does with each connection (`Reply`): a `Wire` holds the replies that are still to
come and the requests that were sent. Every status that the registry answers with is the status of
the outcome. `service` puts a client behind an endpoint.
-/

set_option autoImplicit false

namespace DeviceRegistry

open DeviceRegistry.Json (Value Decoder)
open DeviceRegistry.Management (Outcome Service Version)

namespace Client

/-! ### The wire -/

/-- A request as it is sent. The names of headers are in lower case. -/
structure Sent where
  method : String
  target : String
  headers : List (String × String)
  body : String
  deriving DecidableEq, Repr

/-- What a server does with a connection. -/
inductive Reply where
  | response (status : Nat) (headers : List (String × String)) (body : List UInt8)
  /-- A response starts, and the connection ends within its body. -/
  | cut (status : Nat) (headers : List (String × String))
  /-- A response starts, and its body goes on until the client gives up. -/
  | stalled (status : Nat) (headers : List (String × String))
  /-- The connection ends without a response. -/
  | closed
  /-- Nothing happens until the client gives up. -/
  | silence
  deriving DecidableEq, Repr

/-- The server as a client sees it: what it will do with the next connections, and what was sent to
it. When there is no reply left, the server cannot be connected to. A client does not see what
carries its requests follow redirections: a reply here is the one that a request ends with, and
`traffic` has the requests on the way to it. -/
structure Wire where
  replies : List Reply
  sent : List Sent := []
  deriving DecidableEq, Repr

/-! ### Clients -/

/-- Who a client says it is. -/
structure BasicAuth where
  userName : String
  password : String
  deriving DecidableEq, Repr

/-- How certificates of servers are checked. -/
inductive TlsMode where
  | system
  /-- Against a certificate in a file. -/
  | customCa (path : String)
  | insecure
  deriving DecidableEq, Repr

/-- All that a client needs to know about a registry. -/
structure Config where
  baseUrl : Url
  apiVersion : String := "v1"
  auth : Option BasicAuth := none
  tls : TlsMode := .system
  timeoutSeconds : Nat := 30
  deriving DecidableEq, Repr

end Client

/-- A client of a registry. -/
structure Client where
  baseUrl : Url
  apiVersion : String := "v1"
  auth : Option Client.BasicAuth := none
  timeoutMillis : Nat := 30000
  userAgent : Option String := some "devreg/0.1.0"
  deriving DecidableEq, Repr

namespace Client

/-- A client for a registry. A file of certificates to check against must be there to be read, and
the certificates must be of use. -/
def ofConfig (files : String → Except String (List UInt8)) (c : Config) :
    Except Error Client := do
  if let .customCa path := c.tls then
    match files path with
    | .error reason => throw (.tls s!"failed to read CA cert: {reason}")
    | .ok file =>
      if !Trust.isTrustFile file then throw (.tls "failed to build HTTP client: builder error")
  return {
    baseUrl := c.baseUrl
    apiVersion := c.apiVersion
    auth := c.auth
    timeoutMillis := c.timeoutSeconds * 1000 }

/-- The URL of the credentials of a device. -/
def credentialsUrl (c : Client) (tenantId deviceId : String) : Except Error Url :=
  match c.baseUrl.extend [c.apiVersion, "credentials", tenantId, deviceId] with
  | some url => .ok url
  | none => .error (.invalidBaseUrl c.baseUrl.render)

/-! ### Headers -/

/-- The header of a user name and password. -/
def basicHeader (userName password : String) : String × String :=
  let token := Base64.encode (Text.bytes (userName ++ ":" ++ password))
  ("authorization", "Basic " ++ Text.lossy token)

/-- The user that a URL names, and the password. A user name that is no text once its encoding is
taken off is not one that can be sent; such a password counts as none. -/
def userOf? (u : Url) : Option (String × Option String) := do
  let decoded? (s : String) : Option String := Text.strict? (Url.percentDecode (Text.bytes s))
  let name ← decoded? u.userName
  let password := u.password.bind decoded?
  if name = "" ∧ password = none then none
  return (name, password)

/-- Whether a header can carry a value: it has no control characters but tabs. -/
def isHeaderValue (s : String) : Bool :=
  s.toList.all fun c => c = '\t' || (0x20 ≤ c.toNat && c.toNat ≠ 0x7F)

/-- The headers that a client adds to each of its requests. -/
def ownHeaders (c : Client) : List (String × String) :=
  (c.userAgent.map fun a => ("user-agent", a)).toList ++
    (c.auth.map fun a => basicHeader a.userName a.password).toList

/-! ### Exchanges -/

/-- A response. Its body is waited for only when somebody reads it. -/
structure Received where
  status : Nat
  headers : List (String × String)
  body : Except TransportFault (List UInt8)

/-- What a client that waits for some seconds receives from a URL. -/
def Reply.received (url : Url) (seconds : Nat) : Reply → Except Error Received
  | response status headers body => .ok ⟨status, headers, .ok body⟩
  | cut status headers => .ok ⟨status, headers, .error .cut⟩
  | stalled status headers => .ok ⟨status, headers, .error .stalled⟩
  | closed => .error (.transport (.closed url))
  | silence => .error (.timeout seconds)

/-- Whether a character is a quote, a backtick or a brace, which the host of a request line cannot
hold. -/
def isQuoteOrBrace (c : Char) : Bool := c = '"' || c = '\x60' || c = '\x7b' || c = '\x7d'

/-- Whether a request can be sent to a URL. It goes by one of two schemes, its host has none of the
characters that a request line cannot hold, and it is not too long. -/
def isSendable (u : Url) : Bool :=
  (u.scheme = "http" || u.scheme = "https") &&
    ((u.host.map Host.text).getD "").toList.all (!isQuoteOrBrace ·) &&
    u.render.utf8ByteSize < 0xFFFF

/-- Sends a request and waits for the response. The user that the URL names goes into a header. A
value that no header can carry, and a URL that no request can be sent to, are noticed before
anything is sent. -/
def send (c : Client) (method : String) (url : Url) (headers : List (String × String))
    (body : String) : StateM Wire (Except Error Received) := fun w =>
  let user := userOf? url
  let url := if user.isSome then url.withoutUser else url
  let userHeader := user.toList.map fun (name, password) => basicHeader name (password.getD "")
  let sent : Sent := ⟨method, url.target, userHeader ++ headers ++ c.ownHeaders, body⟩
  if headers.any fun h => !isHeaderValue h.2 then (.error (.transport .header), w)
  else if !isSendable url then (.error (.transport (.unsendable url)), w)
  else match w.replies with
    | [] => (.error (.transport (.refused url)), w)
    | reply :: r => (reply.received url (c.timeoutMillis / 1000), ⟨r, w.sent ++ [sent]⟩)

/-- Whether a character of a header can be shown. -/
def isVisible (c : Char) : Bool := c = '\t' || (0x20 ≤ c.toNat && c.toNat < 0x7F)

/-- A value without spaces and tabs around it. -/
def trimmed (s : String) : String :=
  let isSpace (c : Char) : Bool := c = ' ' || c = '\t'
  String.ofList ((s.toList.dropWhile isSpace).reverse.dropWhile isSpace).reverse

/-- The version that a response names. -/
def versionOf (headers : List (String × String)) : Option Version := do
  let (_, v) ← headers.find? fun h => h.1.map Char.toLower = "etag"
  let v := trimmed v
  if v.toList.all isVisible then some v else none

/-! ### Operations -/

/-- What a response to reading says. Only the status 200 has credentials. -/
def outcomeOfRead (r : Received) : Except Error (Outcome (List Credential)) :=
  let version := versionOf r.headers
  if r.status ≠ 200 then .ok ⟨r.status, none, version⟩
  else match r.body with
    | .error f => .error (.transport f)
    | .ok body =>
      let text := Text.lossy body
      match (Decoder.list Credential.decoder).ofBytes (Text.bytes text) with
      | .ok cs => .ok ⟨200, some cs, version⟩
      | .error e => .error (.deserialization e.message text)

/-- Reads the credentials of a device. -/
def read (c : Client) (tenantId deviceId : String) :
    StateM Wire (Except Error (Outcome (List Credential))) :=
  match c.credentialsUrl tenantId deviceId with
  | .error e => return .error e
  | .ok url => do
    let received ← c.send "GET" url [] ""
    return received.bind outcomeOfRead

/-- The headers of a request that replaces credentials. -/
def updateHeaders (version : Option Version) : List (String × String) :=
  ("content-type", "application/json") :: (version.map fun v => ("if-match", v)).toList

/-- Replaces the credentials of a device. The version is the one that the registry is to have. -/
def update (c : Client) (tenantId deviceId : String) (credentials : List Credential)
    (version : Option Version) : StateM Wire (Except Error (Outcome Unit)) :=
  match c.credentialsUrl tenantId deviceId with
  | .error e => return .error e
  | .ok url => do
    let body := (Value.array (Credential.encodeAll credentials)).render
    let received ← c.send "PUT" url (updateHeaders version) body
    return received.map fun r => ⟨r.status, none, versionOf r.headers⟩

/-- A client as the service behind an endpoint. -/
def service (c : Client) : Service Wire where
  read t d := return (← c.read t d).mapError Error.toServiceError
  update t d cs v := return (← c.update t d cs v).mapError Error.toServiceError

end Client

end DeviceRegistry
