import DeviceRegistry.Management.Message

/-!
# `DeviceRegistry.Management.Span`: the record of a request

A span follows one request from its receipt to its response. It collects what becomes known about
the request (`Entry`) and what happens on the way (`Event`), and is closed exactly once: by `finish`
with a response, by `fail` with an error, or by `abandon` when no response was ever produced. A
`Guard` holds the span until then and knows whether there is a response.
-/

set_option autoImplicit false

namespace DeviceRegistry.Management

/-- What a span is about. -/
inductive Task where
  | read
  | update
  deriving DecidableEq, Repr

/-- The name of a span about a task. -/
def Task.spanName : Task → String
  | read => "get Credentials from management API"
  | update => "update Credentials from management API"

/-- What a span or an event can hold. -/
inductive Datum where
  | text (s : String)
  | number (n : Nat)
  | flag (b : Bool)
  deriving DecidableEq, Repr

/-- Something that becomes known about a request. -/
inductive Entry where
  | tenantId (id : String)
  | deviceId (id : String)
  | statusCode (code : Nat)
  /-- The request failed. -/
  | error
  deriving DecidableEq, Repr

/-- An entry as a name and what it holds. -/
def Entry.field : Entry → String × Datum
  | tenantId id => ("tenant_id", .text id)
  | deviceId id => ("device_id", .text id)
  | statusCode code => ("http.status_code", .number code)
  | error => ("error", .flag true)

/-- Something that happens to a request. -/
inductive Event where
  | reading (tenantId deviceId : String)
  | updating (tenantId deviceId : String) (count : Nat)
  | nothingReturned (status : Nat)
  /-- The service is at fault. -/
  | failed (e : RegistryError)
  /-- The request is at fault. -/
  | rejected (e : RegistryError)
  /-- No response was produced. -/
  | abandoned
  deriving DecidableEq, Repr

namespace Event

/-- Whether somebody should look at an event. -/
def isWarning : Event → Bool
  | failed _ => true
  | _ => false

/-- The text of an event. -/
def message : Event → String
  | reading .. => "reading credentials"
  | updating .. => "updating credentials"
  | nothingReturned _ => "no credentials returned"
  | failed _ => "request failed"
  | rejected _ => "request rejected"
  | abandoned => "request abandoned before a response was produced"

/-- What an event holds beside its text. -/
def fields : Event → List (String × Datum)
  | reading t d => [("tenant_id", .text t), ("device_id", .text d)]
  | updating t d n => [("tenant_id", .text t), ("device_id", .text d), ("count", .number n)]
  | nothingReturned s => [("status", .number s)]
  | failed e | rejected e => [("status", .number e.status.code), ("error", .text e.message)]
  | abandoned => []

/-- The event of an error, by the side that it is attributed to. -/
def ofError (e : RegistryError) : Event :=
  match e.side with
  | .server => failed e
  | .client => rejected e

end Event

/-- The record of a request. -/
structure Span where
  task : Task
  entries : List Entry
  events : List Event
  /-- How often the span was closed. -/
  closed : Nat
  deriving DecidableEq, Repr

namespace Span

/-- Opens a span with what the request says. -/
def opened (task : Task) (tenantId deviceId : Option String) : Span where
  task := task
  entries := (tenantId.map .tenantId).toList ++ (deviceId.map .deviceId).toList
  events := []
  closed := 0

/-- Adds an entry. -/
def record (e : Entry) (s : Span) : Span := { s with entries := s.entries ++ [e] }

/-- Adds an event. -/
def log (e : Event) (s : Span) : Span := { s with events := s.events ++ [e] }

/-- Closes a span. -/
def close (s : Span) : Span := { s with closed := s.closed + 1 }

/-- Marks a span as failed and adds the event of an error. -/
def logError (e : RegistryError) (s : Span) : Span := (s.record .error).log (.ofError e)

end Span

/-! ### Guards -/

/-- Holds the span of a request that is being served. A guard can be given up with a response, with
an error, or without either; in each case `release` is what happens last. -/
structure Guard where
  span : Span
  /-- Whether a response was produced. -/
  finished : Bool := false
  deriving DecidableEq, Repr

namespace Guard

/-- A guard with a new span. -/
def opened (task : Task) (tenantId deviceId : Option String) : Guard where
  span := .opened task tenantId deviceId

/-- Marks the span as failed and adds the event of an error. -/
def logError (e : RegistryError) (g : Guard) : Guard := { g with span := g.span.logError e }

/-- Closes the span. It is marked as failed when no response was produced. -/
def release (g : Guard) : Span :=
  (if g.finished then g.span else (g.span.record .error).log .abandoned).close

/-- Records the status of the response and hands the response back. -/
def finish (r : Response) (g : Guard) : Response × Span :=
  let s := g.span.record (.statusCode r.status.code)
  (r, release { span := if r.status.isError then s.record .error else s, finished := true })

/-- Responds to an error. -/
def fail (e : RegistryError) (g : Guard) : Response × Span := (g.logError e).finish (.ofError e)

end Guard

namespace Span

/-- Closes a span with the response to its request. -/
def finish (r : Response) (s : Span) : Span := (Guard.finish r { span := s }).2

/-- Closes a span with the response to an error. -/
def fail (e : RegistryError) (s : Span) : Span := (Guard.fail e { span := s }).2

/-- Closes a span without a response. -/
def abandon (s : Span) : Span := Guard.release { span := s }

end Span

end DeviceRegistry.Management
