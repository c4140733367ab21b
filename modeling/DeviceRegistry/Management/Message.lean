import DeviceRegistry.Error
import DeviceRegistry.Json.Printer

/-!
# `DeviceRegistry.Management.Message`: requests and responses

What a management endpoint is asked and what it answers, whatever carries the two.
-/

set_option autoImplicit false

namespace DeviceRegistry.Management

open DeviceRegistry.Json (Value)

/-- The version of a stored resource. Only the service that gave it knows what it means. -/
abbrev Version := String

/-- A request to an endpoint. -/
structure Request where
  method : String
  tenantId : Option String := none
  deviceId : Option String := none
  /-- The version that the client asserts. -/
  ifMatch : Option Version := none
  body : List UInt8 := []
  deriving DecidableEq, Repr

/-- The method that reads. -/
def readMethod : String := "GET"

/-- The method that replaces. -/
def updateMethod : String := "PUT"

/-- A request to read the credentials of a device. -/
def Request.read (tenantId deviceId : String) : Request :=
  { method := readMethod, tenantId := some tenantId, deviceId := some deviceId }

/-- A request to replace the credentials of a device. -/
def Request.update (tenantId deviceId : String) (body : List UInt8) (ifMatch : Option Version) :
    Request :=
  { method := updateMethod
    tenantId := some tenantId
    deviceId := some deviceId
    ifMatch := ifMatch
    body := body }

/-- What a response carries. -/
inductive Body where
  | empty
  | json (v : Value)
  /-- The message of a request that failed. -/
  | text (s : String)
  deriving DecidableEq, Repr

/-- The text that a body is sent as. -/
def Body.content : Body → String
  | empty => ""
  | json v => v.render
  | text s => s

/-- The kind of content that a body is announced as. -/
def Body.contentType? : Body → Option String
  | empty => none
  | json _ => some "application/json"
  | text _ => some "text/plain; charset=utf-8"

/-- The response of an endpoint. -/
structure Response where
  status : Status
  etag : Option Version := none
  body : Body := .empty
  deriving DecidableEq, Repr

namespace Response

/-- A response with a status only. -/
def ofStatus (s : Status) : Response := { status := s }

/-- A response that carries a document. -/
def ofValue (s : Status) (v : Value) : Response := { status := s, body := .json v }

/-- The response to a request that failed: the status and text of the error. -/
def ofError (e : RegistryError) : Response := { status := e.status, body := .text e.message }

/-- The response with the version of what it is about. -/
def withVersion (r : Response) (v : Option Version) : Response := { r with etag := v }

end Response

end DeviceRegistry.Management
