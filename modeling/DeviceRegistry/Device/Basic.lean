import DeviceRegistry.Error
import DeviceRegistry.Json.Value

/-!
# `DeviceRegistry.Device.Basic`: devices

A device carries flags, opaque metadata and its relationships: the gateways and gateway groups it
communicates through, or the groups it belongs to itself. A device that belongs to groups is a
gateway of its own and has neither of the others (`Consistent`). The setters of the relationships
enforce this and leave the device alone when they refuse; everything else always succeeds.
-/

set_option autoImplicit false

namespace DeviceRegistry

open DeviceRegistry.Json (Value Members)

/-- Puts a name at its place in sorted names, unless it is there already. -/
def insertName (name : String) : List String → List String
  | [] => [name]
  | n :: r =>
    if name < n then name :: n :: r else if name = n then n :: r else n :: insertName name r

/-- The set of names in a list, sorted. -/
def nameSet (names : List String) : List String := names.foldl (fun s n => insertName n s) []

/-- A device. -/
structure Device where
  enabled : Option Bool := none
  /-- Metadata of others, sorted by name. -/
  extensions : Members := []
  /-- Values for messages that lack them, sorted by name. -/
  defaults : Members := []
  /-- The gateways that the device communicates through, in order. -/
  via : List String := []
  /-- The groups of gateways that the device communicates through, in order. -/
  viaGroups : List String := []
  /-- The groups that the device belongs to, sorted. -/
  memberOf : List String := []
  mapper : Option String := none
  /-- Who may act for the device, sorted. -/
  authorities : List String := []
  deriving DecidableEq, Repr, Inhabited

namespace Device

/-- A device is not both a member of groups and behind gateways. -/
def Consistent (d : Device) : Prop := d.memberOf = [] ∨ (d.via = [] ∧ d.viaGroups = [])

instance (d : Device) : Decidable d.Consistent := inferInstanceAs (Decidable (_ ∨ _))

/-- Whether a device may be used. A flag that is not set means that it may. -/
def isEnabled (d : Device) : Bool := d.enabled.getD true

/-- Changes of a device that may be refused: what comes of one, and the device that it leaves
behind. -/
abbrev Change (ε : Type) : Type → Type := ExceptT ε (StateM Device)

/-! ### Relationships -/

/-- The first of opposing relationships that stands in the way of names. -/
def obstacle? (names : List String) (opposing : List (String × List String)) : Option String :=
  if names = [] then none else (opposing.find? fun relation => relation.2 ≠ []).map Prod.fst

/-- Replaces the names of a relationship by `put`. Refused when there are some and the device has an
opposing relationship; the first of those that it has is reported. -/
def relate (field : String) (opposing : Device → List (String × List String))
    (names : List String) (put : Device → Device) : Change RegistryError Unit := do
  let d ← get
  match obstacle? names (opposing d) with
  | some existing => throw (.mutuallyExclusive existing field)
  | none => set (put d)

/-- Replaces the gateways. Refused when there are some and the device belongs to groups. -/
def setVia (names : List String) : Change RegistryError Unit :=
  relate "via" (fun d => [("memberOf", d.memberOf)]) names fun d => { d with via := names }

/-- Replaces the groups of gateways. Refused when there are some and the device belongs to
groups. -/
def setViaGroups (names : List String) : Change RegistryError Unit :=
  relate "viaGroups" (fun d => [("memberOf", d.memberOf)]) names fun d =>
    { d with viaGroups := names }

/-- Replaces the groups that the device belongs to. Refused when there are some and the device is
behind gateways or groups of gateways. -/
def setMemberOf (names : List String) : Change RegistryError Unit :=
  relate "memberOf" (fun d => [("via", d.via), ("viaGroups", d.viaGroups)]) names fun d =>
    { d with memberOf := nameSet names }

/-! ### Everything else -/

/-- Sets the flag. -/
def setEnabled (b : Bool) (d : Device) : Device := { d with enabled := some b }

/-- Returns the flag to its unset state. -/
def clearEnabled (d : Device) : Device := { d with enabled := none }

/-- Changes the metadata of others in any way. What is left is a map again. -/
def editExtensions (edit : Members → Members) (d : Device) : Device :=
  { d with extensions := Members.sort (edit d.extensions) }

/-- Puts a value into the metadata of others. -/
def putExtension (name : String) (v : Value) (d : Device) : Device :=
  { d with extensions := d.extensions.insert name v }

/-- Removes a value from the metadata of others. -/
def removeExtension (name : String) (d : Device) : Device :=
  { d with extensions := Members.erase name d.extensions }

/-- Puts a value for messages that lack it. -/
def putDefault (name : String) (v : Value) (d : Device) : Device :=
  { d with defaults := d.defaults.insert name v }

/-- Sets the mapper of the device's messages. -/
def setMapper (name : String) (d : Device) : Device := { d with mapper := some name }

/-- Replaces those who may act for the device. -/
def setAuthorities (names : List String) (d : Device) : Device :=
  { d with authorities := nameSet names }

end Device

end DeviceRegistry
