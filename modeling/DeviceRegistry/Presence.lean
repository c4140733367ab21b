import DeviceRegistry.Json.Value
import DeviceRegistry.Time.Instant

/-!
# `DeviceRegistry.Presence`: devices that announce how long they stay

A message may announce that its device stays connected for a number of seconds after the message was
created, or until further notice. A `Presence` is such an announcement while it still holds; one
that has passed, or that does not say who it is from, is none.
-/

set_option autoImplicit false

namespace DeviceRegistry

open DeviceRegistry.Json (Value Members)

/-- What a message says about itself: when it was created, the properties its sender set, and what
the transport noted. -/
structure Message where
  creationTime : Option Instant
  properties : Members
  annotations : Members

namespace Message

/-- The seconds that the device stays, or -1 for until further notice. -/
def timeUntilDisconnect? (m : Message) : Option Int := (m.properties.get? "ttd").bind Value.asInt64?

/-- The device that sent the message. -/
def deviceId? (m : Message) : Option String := (m.properties.get? "device_id").bind Value.asString?

/-- The tenant that the device belongs to. -/
def tenantId? (m : Message) : Option String := (m.annotations.get? "tenant_id").bind Value.asString?

end Message

/-- When an announcement ends. -/
inductive Expiry where
  /-- Not before the device says so. -/
  | unlimited
  /-- At an instant, a number of milliseconds from when it was asked. -/
  | at (readyUntil : Instant) (remainingMillis : Int)
  deriving DecidableEq, Repr

/-- The announcement of a device that it is ready to receive commands. -/
structure Presence where
  tenantId : String
  deviceId : String
  timeUntilDisconnect : Int
  creationTime : Instant
  expiry : Expiry
  deriving DecidableEq, Repr

namespace Presence

/-- When an announcement made at `created` ends, asked at `now`. None when it has passed, or never
held. -/
def expiry? (created now : Instant) (seconds : Int) : Option Expiry :=
  if seconds = -1 then some .unlimited
  else if seconds ≤ 0 then none
  else do
    let readyUntil ← created.addSeconds? seconds
    let remaining := readyUntil.millisSince now
    if remaining ≤ 0 then none else some (.at readyUntil remaining)

/-- The announcement in a message, asked at `now`. A message without a creation time counts as
created at the start of 1970. -/
def ofMessage? (m : Message) (now : Instant) : Option Presence := do
  let seconds ← m.timeUntilDisconnect?
  let tenantId ← m.tenantId?
  let deviceId ← m.deviceId?
  let created := m.creationTime.getD .epoch
  let expiry ← expiry? created now seconds
  return ⟨tenantId, deviceId, seconds, created, expiry⟩

end Presence

end DeviceRegistry
