import DeviceRegistry.Error
import DeviceRegistry.Url.Basic

/-!
# `DeviceRegistry.Client.Error`: why a registry cannot be asked

Only a failure to obtain an outcome is an error here; a registry that answers with an error status
has answered. Every error becomes a `ServiceError` when the client stands behind an endpoint: what
may be tried again keeps a status that says so.
-/

set_option autoImplicit false

namespace DeviceRegistry.Client

/-- Why no response arrived, or not all of it. -/
inductive TransportFault where
  /-- The server cannot be connected to. -/
  | refused (url : Url)
  /-- The connection ended without a response. -/
  | closed (url : Url)
  /-- The connection ended within the body of a response. -/
  | cut
  /-- The body of a response did not arrive in time. -/
  | stalled
  /-- No request can be sent to the URL. -/
  | unsendable (url : Url)
  /-- A header cannot carry the value it is given. -/
  | header
  deriving DecidableEq, Repr

/-- The text of a fault. -/
def TransportFault.message : TransportFault → String
  | refused url => s!"error sending request for url ({url.render})"
  | closed url => s!"error sending request for url ({url.render})"
  | cut => "error decoding response body"
  | stalled => "error decoding response body"
  | unsendable url => s!"builder error for url ({url.render})"
  | header => "builder error"

/-- Why a client has no outcome. -/
inductive Error where
  | transport (fault : TransportFault)
  /-- The base URL cannot be extended by segments. -/
  | invalidBaseUrl (url : String)
  | timeout (seconds : Nat)
  /-- The secure transport cannot be set up. -/
  | tls (reason : String)
  /-- The response cannot be decoded; it is kept as it came. -/
  | deserialization (message body : String)
  /-- The credentials of a request cannot be written. -/
  | payload (e : RegistryError)
  deriving DecidableEq, Repr

namespace Error

/-- The text of an error. -/
def message : Error → String
  | transport f => s!"HTTP transport error: {f.message}"
  | invalidBaseUrl url => s!"URL cannot be used as a registry base: {url}"
  | timeout seconds => s!"Request timed out after {seconds}s"
  | tls reason => s!"TLS error: {reason}"
  | deserialization message _ => s!"Deserialization error: {message}"
  | payload e => s!"Invalid credentials payload: {e.message}"

/-- Whether the same request may succeed later. -/
def isTransient : Error → Bool
  | transport (.refused _) => true
  | transport .stalled => true
  | timeout _ => true
  | _ => false

/-- The failure that an error is for those behind an endpoint, without its cause. -/
def toFailure (e : Error) : ServiceError :=
  match e with
  | timeout _ => .gatewayTimeout e.message
  | transport .stalled => .gatewayTimeout e.message
  | transport (.refused _) => .unavailable e.message
  | transport _ => .badGateway e.message
  | deserialization .. => .badGateway e.message
  | invalidBaseUrl _ => .internal e.message
  | tls _ => .internal e.message
  | payload _ => .internal e.message

/-- The failure that an error is for those behind an endpoint. -/
def toServiceError (e : Error) : ServiceError := e.toFailure.withCause e.message

/-- The error of a request that an error stands for. -/
def toRegistryError : Error → RegistryError
  | payload e => e
  | e => .service e.toServiceError

end Error

end DeviceRegistry.Client
