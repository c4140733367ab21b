import DeviceRegistry.Credential.Basic
import DeviceRegistry.Management.Message

/-!
# `DeviceRegistry.Management.Service`: who stores the credentials

A service reads and replaces the credentials of a device. It has a state of its own kind and says
what came of an operation, whatever that is, or that it failed to do anything. `recorded` is a
service that also keeps the calls that were made of it, in order.
-/

set_option autoImplicit false

namespace DeviceRegistry.Management

/-- What came of an operation. -/
structure Outcome (α : Type) where
  status : Nat
  payload : Option α := none
  version : Option Version := none
  deriving Repr

/-- Whether an operation did what it was asked. -/
def Outcome.isSuccess {α : Type} (o : Outcome α) : Bool := 200 ≤ o.status && o.status < 300

/-- Who stores the credentials of devices, as functions on its state. -/
structure Service (σ : Type) where
  /-- All credentials of a device. -/
  read : (tenantId deviceId : String) → StateM σ (Except ServiceError (Outcome (List Credential)))
  /-- Replaces all credentials of a device. The version is the one that the client asserts. -/
  update : (tenantId deviceId : String) → List Credential → Option Version →
    StateM σ (Except ServiceError (Outcome Unit))

/-- A call of a service. -/
inductive Call where
  | read (tenantId deviceId : String)
  | update (tenantId deviceId : String) (credentials : List Credential) (version : Option Version)
  deriving DecidableEq, Repr

/-- Runs a step of a state that is paired with another one. -/
def onFirst {σ τ α : Type} (step : StateM σ α) (also : τ → τ) : StateM (σ × τ) α := fun (s, t) =>
  let (a, s) := step s
  (a, s, also t)

/-- The same service, which also keeps the calls that are made of it. -/
def Service.recorded {σ : Type} (s : Service σ) : Service (σ × List Call) where
  read t d := onFirst (s.read t d) (· ++ [.read t d])
  update t d cs v := onFirst (s.update t d cs v) (· ++ [.update t d cs v])

end DeviceRegistry.Management
