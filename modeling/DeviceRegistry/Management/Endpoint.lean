import DeviceRegistry.Credential.Codec
import DeviceRegistry.Management.Service
import DeviceRegistry.Management.Span

/-!
# `DeviceRegistry.Management.Endpoint`: serving requests

An endpoint checks a request, calls its service at most once, and turns what the service says into a
response. Reading answers with the credentials of a device as an array and their version; replacing
hands the credentials of the body to the service, all of them or none. Every request that names one
of the two methods is followed by a span.
-/

set_option autoImplicit false

namespace DeviceRegistry.Management

open DeviceRegistry.Json (Value)
open DeviceRegistry.Text (Pattern isAlphanumeric)

/-- How an endpoint presents itself. -/
structure EndpointConfig where
  /-- The first segment of every path. -/
  apiVersion : String := "v1"
  /-- The length of the longest body that is accepted, in bytes. -/
  maxPayloadSize : UInt64 := 2048
  /-- The origin that browsers are told to allow. -/
  corsAllowedOrigin : String := "*"
  deriving DecidableEq, Repr

/-- An endpoint in front of a service. -/
structure Endpoint (σ : Type) where
  service : Service σ
  config : EndpointConfig := {}

/-- What an endpoint answers, and the spans of the request. -/
structure Answer where
  response : Response
  spans : List Span

namespace Endpoint

variable {σ : Type}

/-! ### Paths -/

/-- The name of an endpoint. -/
def name (e : Endpoint σ) : String := e.config.apiVersion ++ "/credentials"

/-- The template of the paths that an endpoint serves. -/
def resourcePath (e : Endpoint σ) : String :=
  "/" ++ e.name ++ "/\x7btenant_id\x7d/\x7bdevice_id\x7d"

/-- The methods that an endpoint knows. -/
def allowedMethods : List String := [readMethod, updateMethod]

/-! ### Checks -/

/-- The identifiers of tenants and devices. -/
def idPattern : Pattern where
  text := "^[a-zA-Z0-9-_\\.:=]+$"
  admits c := isAlphanumeric c || c = '-' || c = '_' || c = '.' || c = ':' || c = '='

/-- An identifier that must be there and match the pattern. -/
def checkId (parameter : String) : Option String → Except RegistryError String
  | none => .error (.invalidParameter parameter "must be set")
  | some id =>
    if id = "" then .error (.invalidParameter parameter "must be set")
    else if idPattern.isMatch id then .ok id
    else .error (.invalidParameter parameter
      s!"'{id}' does not match allowed pattern: {idPattern.text}")

/-- The identifiers of a request, the tenant first. -/
def checkIds (tenantId deviceId : Option String) : Except RegistryError (String × String) := do
  let t ← checkId "tenant_id" tenantId
  let d ← checkId "device_id" deviceId
  return (t, d)

/-- The items of a body, which must not be too long and must be an array. -/
def itemsOf (limit : Nat) (body : List UInt8) : Except RegistryError (List Value) :=
  if limit < body.length then .error (.payloadTooLarge body.length limit)
  else if body.isEmpty then .error (.malformedPayload "missing request body")
  else match Value.ofBytes body with
    | .ok (.array vs) => .ok vs
    | .ok _ => .error (.malformedPayload "request body must be a JSON array")
    | .error e => .error (.malformedPayload e.message)

/-- The status of an outcome, when a response can carry it. -/
def outcomeStatus (code : Nat) : Except RegistryError Status :=
  match Status.of? code with
  | some s => .ok s
  | none => .error (.invalidStatus code)

/-! ### Operations -/

/-- Answers with a response. -/
def finish (s : Span) (r : Response) : Answer := ⟨r, [s.finish r]⟩

/-- Answers with an error. -/
def fail (s : Span) (e : RegistryError) : Answer := ⟨.ofError e, [s.fail e]⟩

/-- The response to a body whose credentials cannot be decoded. -/
def undecodable : Response := { status := .badRequest, body := .text "Error parsing credentials" }

/-- Answers what a service says about reading. Only the outcome 200 has a body. -/
def answerRead (s : Span) : Except ServiceError (Outcome (List Credential)) → Answer
  | .error e => fail s (.service e)
  | .ok outcome =>
    match outcomeStatus outcome.status with
    | .error e => fail s e
    | .ok status =>
      if status = .ok then
        finish s ((Response.ofValue .ok
          (.array (Credential.encodeAll (outcome.payload.getD [])))).withVersion outcome.version)
      else finish (s.log (.nothingReturned outcome.status)) (.ofStatus status)

/-- Answers what a service says about replacing. -/
def answerUpdate (s : Span) : Except ServiceError (Outcome Unit) → Answer
  | .error e => fail s (.service e)
  | .ok outcome =>
    match outcomeStatus outcome.status with
    | .error e => fail s e
    | .ok status => finish s ((Response.ofStatus status).withVersion outcome.version)

/-- Reads the credentials of a device. -/
def read (e : Endpoint σ) (tenantId deviceId : Option String) : StateM σ Answer :=
  let span := Span.opened .read tenantId deviceId
  match checkIds tenantId deviceId with
  | .error err => return fail span err
  | .ok (t, d) => do
    let said ← e.service.read t d
    return answerRead (span.log (.reading t d)) said

/-- Replaces the credentials of a device by those of a body. -/
def update (e : Endpoint σ) (tenantId deviceId : Option String) (body : List UInt8)
    (ifMatch : Option Version) : StateM σ Answer :=
  let span := Span.opened .update tenantId deviceId
  match checkIds tenantId deviceId with
  | .error err => return fail span err
  | .ok (t, d) =>
    match itemsOf e.config.maxPayloadSize.toNat body with
    | .error err => return fail span err
    | .ok vs =>
      match Credential.decodeAll vs with
      | .error err => return finish (span.logError err) undecodable
      | .ok cs => do
        let said ← e.service.update t d cs ifMatch
        return answerUpdate (span.log (.updating t d cs.length)) said

/-- Serves a request. -/
def handle (e : Endpoint σ) (r : Request) : StateM σ Answer :=
  if r.method = readMethod then e.read r.tenantId r.deviceId
  else if r.method = updateMethod then e.update r.tenantId r.deviceId r.body r.ifMatch
  else return ⟨.ofError (.methodNotAllowed r.method), []⟩

end Endpoint

end DeviceRegistry.Management
