import DeviceRegistry.Status

/-!
# `DeviceRegistry.Error`: what can go wrong in the registry

A `ServiceError` is the failure of a service to produce an outcome, with a code that its class
admits. A `RegistryError` is any failure of a request: a payload or parameter at fault, or the
service. Every error has a status, a class that agrees with it, and a text.
-/

set_option autoImplicit false

namespace DeviceRegistry

/-! ### Failures of a service -/

/-- The failure of a service. The code belongs to the class. -/
structure ServiceError where
  side : StatusClass
  code : Nat
  message : Option String
  /-- The text of what caused the failure. -/
  cause : Option String
  holds_code : side.Holds code
  deriving DecidableEq, Repr

namespace ServiceError

/-- A failure with a class and a code, when they agree. -/
def classified (c : StatusClass) (code : Nat) (message : Option String) :
    Except Misclassified ServiceError :=
  if h : c.Holds code then .ok ⟨c, code, message, none, h⟩ else .error (.outOfRange c code)

/-- A failure that the request is to blame for. -/
def client (code : Nat) (message : String) : Except Misclassified ServiceError :=
  classified .client code (some message)

/-- A failure that the service is to blame for. -/
def server (code : Nat) (message : String) : Except Misclassified ServiceError :=
  classified .server code (some message)

/-- A failure with the class of its code. -/
def ofStatus (code : Nat) (message : Option String) : Except Misclassified ServiceError :=
  match StatusClass.of? code with
  | some c => classified c code message
  | none => .error (.notAnError code)

/-- The request is malformed. -/
def badRequest (message : String) : ServiceError := ⟨.client, 400, some message, none, by decide⟩

/-- The service is broken. -/
def internal (message : String) : ServiceError := ⟨.server, 500, some message, none, by decide⟩

/-- What the service relies on answered badly. -/
def badGateway (message : String) : ServiceError := ⟨.server, 502, some message, none, by decide⟩

/-- The service cannot be reached. -/
def unavailable (message : String) : ServiceError := ⟨.server, 503, some message, none, by decide⟩

/-- What the service relies on did not answer in time. -/
def gatewayTimeout (message : String) : ServiceError :=
  ⟨.server, 504, some message, none, by decide⟩

/-- The same failure with the text of what caused it. -/
def withCause (e : ServiceError) (cause : String) : ServiceError := { e with cause := some cause }

/-- The status that a failure is reported with. -/
def status (e : ServiceError) : Status := (Status.of? e.code).getD .internalServerError

/-- The text of a failure. -/
def text (e : ServiceError) : String :=
  match e.message with
  | some message => message
  | none => s!"{e.side.name} error (status {e.code})"

end ServiceError

/-! ### Failures of a request -/

/-- Why a request cannot be served. -/
inductive RegistryError where
  /-- A member that a payload needs is missing. -/
  | missingField (field : String)
  /-- A member of a payload has a text that is not allowed. -/
  | patternMismatch (field value pattern : String)
  /-- Two properties exclude each other. -/
  | mutuallyExclusive (existing requested : String)
  /-- A credential does not have the shape of its type, or breaks a rule of it. -/
  | invalidCredential (credentialType message : String)
  /-- A payload is no document of the expected kind. -/
  | malformedPayload (message : String)
  /-- The body is longer than the limit. -/
  | payloadTooLarge (size limit : Nat)
  /-- A parameter of the request is not allowed. -/
  | invalidParameter (name reason : String)
  /-- The resource does not know the method. -/
  | methodNotAllowed (method : String)
  /-- A response cannot be written. -/
  | encoding (message : String)
  /-- The service answered with a code that no response can carry. -/
  | invalidStatus (code : Nat)
  /-- An error was built with a code outside its class. -/
  | classification (e : Misclassified)
  /-- The service failed. -/
  | service (e : ServiceError)
  deriving DecidableEq, Repr

namespace RegistryError

/-- The text of an error. -/
def message : RegistryError → String
  | missingField field => s!"'{field}' field must be set"
  | patternMismatch field value pattern =>
    s!"'{field}' value : '{value}' does not match allowed pattern: {pattern}"
  | mutuallyExclusive existing requested =>
    s!"Property '{existing}' and '{requested}' must not be set at the same time"
  | invalidCredential credentialType message => s!"Invalid '{credentialType}' credential: {message}"
  | malformedPayload message => s!"Malformed payload: {message}"
  | payloadTooLarge size limit =>
    s!"Request body of {size} bytes exceeds the limit of {limit} bytes"
  | invalidParameter name reason => s!"Invalid request parameter '{name}': {reason}"
  | methodNotAllowed method => s!"Method {method} is not allowed on this resource"
  | encoding message => s!"Failed to encode response: {message}"
  | invalidStatus code => s!"Service reported an invalid status code {code}"
  | classification e => e.message
  | service e => e.text

/-- The status that an error is reported with. -/
def status : RegistryError → Status
  | missingField _ | patternMismatch .. | mutuallyExclusive .. | invalidCredential ..
  | malformedPayload _ | invalidParameter .. => .badRequest
  | payloadTooLarge .. => .payloadTooLarge
  | methodNotAllowed _ => .methodNotAllowed
  | encoding _ | invalidStatus _ | classification _ => .internalServerError
  | service e => e.status

/-- The side that an error is attributed to. -/
def side : RegistryError → StatusClass
  | service e => e.side
  | encoding _ | invalidStatus _ | classification _ => .server
  | _ => .client

/-- Whether the payload is at fault, rather than the request around it or the service. -/
def isValidation : RegistryError → Bool
  | missingField _ | patternMismatch .. | mutuallyExclusive .. | invalidCredential ..
  | malformedPayload _ => true
  | _ => false

end RegistryError

end DeviceRegistry
