import DeviceRegistry.Device.Codec

/-!
# `DeviceRegistry.Device.Operation`: histories of a device

What can be done to a device, as data, so that whole histories can be spoken about: `perform` does
one operation, which may be refused, and `run` does operations in order, whatever they say. A device
that cannot be read ends a `trace`.
-/

set_option autoImplicit false

namespace DeviceRegistry.Device

open DeviceRegistry.Json (Value Members)

/-- Something that can be done to a device. -/
inductive Operation where
  | setEnabled (b : Bool)
  | clearEnabled
  | setVia (names : List String)
  | setViaGroups (names : List String)
  | setMemberOf (names : List String)
  | editExtensions (edit : Members → Members)
  | putExtension (name : String) (v : Value)
  | removeExtension (name : String)
  | putDefault (name : String) (v : Value)
  | setMapper (name : String)
  | setAuthorities (names : List String)
  | reload
  /-- The device of a document takes the place of this one. -/
  | ofValue (v : Value)
  /-- The device of a text takes the place of this one. -/
  | ofBytes (text : List UInt8)

/-- Why something cannot be done to a device. -/
inductive Refusal where
  /-- It is against a rule. -/
  | rule (e : RegistryError)
  /-- There is no device to be read. -/
  | unreadable (e : Json.Error)

/-- A device that was read takes the place of another one. -/
def takePlace (read : Except Json.Error Device) : Change Refusal Unit :=
  match read with
  | .ok d => set d
  | .error e => throw (.unreadable e)

/-- Does one thing to a device. -/
def perform : Operation → Change Refusal Unit
  | .setEnabled b => modify (setEnabled b)
  | .clearEnabled => modify clearEnabled
  | .setVia names => (setVia names).adapt .rule
  | .setViaGroups names => (setViaGroups names).adapt .rule
  | .setMemberOf names => (setMemberOf names).adapt .rule
  | .editExtensions edit => modify (editExtensions edit)
  | .putExtension name v => modify (putExtension name v)
  | .removeExtension name => modify (removeExtension name)
  | .putDefault name v => modify (putDefault name v)
  | .setMapper name => modify (setMapper name)
  | .setAuthorities names => modify (setAuthorities names)
  | .reload => do takePlace (← get).reload
  | .ofValue v => takePlace ((decoder.ofValue v).mapError fun m => ⟨.mismatch m, none⟩)
  | .ofBytes text => takePlace (decoder.ofBytes text)

/-- What one operation leaves behind. -/
def step (d : Device) (op : Operation) : Device := ((perform op).run d).2

/-- What a history of operations leaves behind. -/
def run (d : Device) (ops : List Operation) : Device := ops.foldl step d

/-- What each operation of a history says, and what it leaves behind. -/
def trace : Device → List Operation → Except Json.Error (List (Option RegistryError × Device))
  | _, [] => .ok []
  | d, op :: ops =>
    match (perform op).run d with
    | (.ok (), d) => (trace d ops).map ((none, d) :: ·)
    | (.error (.rule e), d) => (trace d ops).map ((some e, d) :: ·)
    | (.error (.unreadable e), _) => .error e

end DeviceRegistry.Device
