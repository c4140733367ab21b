import DeviceRegistry.Device.Basic
import DeviceRegistry.Json.Decoder

/-!
# `DeviceRegistry.Device.Codec`: devices as documents

`document` writes what is set and nothing else. Reading goes through the setters of the
relationships, so that a device that is read is as consistent as one that was built.
-/

set_option autoImplicit false

namespace DeviceRegistry

open DeviceRegistry.Json (Value Members Decoder Field PlainRecord)

/-- A device as it is written, before the relationships are checked. -/
structure DeviceDraft where
  enabled : Option Bool := none
  extensions : Members := []
  defaults : Members := []
  via : List String := []
  viaGroups : List String := []
  memberOf : List String := []
  mapper : Option String := none
  authorities : List String := []

namespace DeviceDraft

/-- The fields of a device, in the order in which an array gives them. -/
def record : PlainRecord DeviceDraft where
  expected := "struct DeviceDocument"
  blank := {}
  fields :=
    [.of "enabled" (.optional .boolean) fun v d => { d with enabled := v },
      .of "ext" .members fun v d => { d with extensions := v },
      .of "defaults" .members fun v d => { d with defaults := v },
      .of "via" (.list .string) fun v d => { d with via := v },
      .of "viaGroups" (.list .string) fun v d => { d with viaGroups := v },
      .of "memberOf" (.list .string) fun v d => { d with memberOf := v },
      .of "mapper" (.optional .string) fun v d => { d with mapper := v },
      .of "authorities" (.list .string) fun v d => { d with authorities := v }]

/-- Gives a device the relationships of a draft, and those who may act for it. -/
def fill (d : DeviceDraft) : Device.Change RegistryError Unit := do
  Device.setVia d.via
  Device.setViaGroups d.viaGroups
  Device.setMemberOf d.memberOf
  modify (Device.setAuthorities d.authorities)

/-- The device of a draft, when its relationships are consistent. -/
def toDevice (d : DeviceDraft) : Except RegistryError Device :=
  let unrelated : Device :=
    { enabled := d.enabled
      extensions := d.extensions
      defaults := d.defaults
      mapper := d.mapper }
  match d.fill.run unrelated with
  | (.ok (), device) => .ok device
  | (.error e, _) => .error e

end DeviceDraft

namespace Device

/-- Reads a device. -/
def decoder : Decoder Device :=
  DeviceDraft.record.decoder.convert fun d => d.toDevice.mapError fun e => .rule e.message

/-- Writes names as an array, when there are some. -/
def namesMember (field : String) (names : List String) : Option (String × Value) :=
  if names.isEmpty then none else some (field, .array (names.map .string))

/-- Writes members as an object, when there are some. -/
def membersMember (field : String) (ms : Members) : Option (String × Value) :=
  if ms.isEmpty then none else some (field, .object ms)

/-- Writes a device. -/
def document (d : Device) : Value :=
  .ofPresent [
    d.enabled.map fun b => ("enabled", .bool b),
    membersMember "ext" d.extensions,
    membersMember "defaults" d.defaults,
    namesMember "via" d.via,
    namesMember "viaGroups" d.viaGroups,
    namesMember "memberOf" d.memberOf,
    d.mapper.map fun s => ("mapper", .string s),
    namesMember "authorities" d.authorities]

/-- Writes a device as a text and reads the text. A number that is no integer need not come back as
it was, and what is nested too deep cannot be read. -/
def reload (d : Device) : Except Json.Error Device := decoder.ofBytes (Text.bytes d.document.render)

end Device

end DeviceRegistry
