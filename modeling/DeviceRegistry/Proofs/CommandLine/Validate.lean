import DeviceRegistry.Proofs.CommandLine.Payload
import DeviceRegistry.Proofs.Device.Document

/-!
# `DeviceRegistry.Proofs.CommandLine.Validate`: files that hold a device

A file that holds a device is decoded as it is read, so that what belongs to no field is never
looked at. Main statements:

* `loadDevice_eq_ok_iff`: what the command accepts, and what it makes of it.
* `devices_are_documents`: the documents and files that are devices. They are objects, and arrays
  that give the fields in order.
-/

set_option autoImplicit false

namespace DeviceRegistry.CommandLine

open DeviceRegistry.Json (Value readAll readDocument greatestDepth)

variable {w : Surroundings} {s : Settings} {path : String} {d : Device}

/-- A file is accepted when it can be read, is not too long and can be decoded. Devices and
credentials have the same limit, though devices are never sent. -/
theorem loadDevice_eq_ok_iff :
    loadDevice w s path = .ok d ↔ ∃ bytes, w.files path = .ok bytes ∧
      bytes.length ≤ s.endpoint.maxPayloadSize.toNat ∧ Device.decoder.ofBytes bytes = .ok d := by
  unfold loadDevice
  simp only [except_bind_eq_ok, readPayload_eq_ok_iff, except_mapError_eq_ok, and_assoc]

/-- Validating a file succeeds exactly when the file holds a device, whatever is printed of it. -/
theorem validateDevice_exitCode_eq_zero_iff {args : List String} {i : Invocation}
    {wire : Client.Wire} (h : Invocation.read w.env args = .ok i)
    (hcommand : i.command = .validateDevice path) :
    (run w args wire).1.ending.exitCode = 0 ↔ ∃ d, loadDevice w w.settings path = .ok d := by
  have hrun : (i.command.run w i.options wire).1 =
      (loadDevice w w.settings path).map (Device.report (i.options.format w.settings)) := by
    rw [hcommand]
    rfl
  exact exitCode_eq_zero_iff_of_run h hrun

/-- A document is a device when the members that it gives are one: only the objects that are one,
but for arrays that give the fields in order. A file that holds its text is accepted when the
document is a device, unless one of the fields is too deep to be read. -/
theorem devices_are_documents {v : Value} (hv : v.NamesOnce) :
    ((∃ d, Device.decoder.ofValue v = .ok d) ↔
      ∃ ms, DeviceDraft.record.membersOf? v = some ms ∧ Device.IsDocument ms) ∧
    (((∃ d, Device.decoder.ofValue v = .ok d) ↔ ∃ ms, v = .object ms ∧ Device.IsDocument ms) ↔
      ∀ items ms, v = .array items → DeviceDraft.record.membersOf? v = some ms →
        ¬ Device.IsDocument ms) ∧
    (∀ d, Device.decoder.ofValue v = .ok d ↔
      ∃ ms, DeviceDraft.record.membersOf? v = some ms ∧ d.DescribedBy ms) ∧
    -- a file
    ∀ w args i path bytes wire depth doc, Invocation.read w.env args = .ok i →
      i.command = .validateDevice path → w.files path = .ok bytes →
      bytes.length ≤ w.settings.endpoint.maxPayloadSize.toNat →
      readAll (readDocument depth) bytes = .ok doc → doc.NamesOnce → doc.normalize = v →
      (depth ≤ greatestDepth → DeviceDraft.record.IsShallow greatestDepth doc) ∧
      (∀ d, loadDevice w w.settings path = .ok d ↔
        DeviceDraft.record.IsShallow greatestDepth doc ∧ Device.decoder.ofValue v = .ok d) ∧
      ((run w args wire).1.ending.exitCode = 0 ↔
        DeviceDraft.record.IsShallow greatestDepth doc ∧
          ∃ d, Device.decoder.ofValue v = .ok d) := by
  have hvalue : ∀ d, Device.decoder.ofValue v = .ok d ↔
      ∃ ms, DeviceDraft.record.membersOf? v = some ms ∧ d.DescribedBy ms := fun d =>
    Device.decoder_ofValue_eq_ok_iff hv
  have haccepts : (∃ d, Device.decoder.ofValue v = .ok d) ↔
      ∃ ms, DeviceDraft.record.membersOf? v = some ms ∧ Device.IsDocument ms := by
    simp only [hvalue, ← Device.exists_describedBy_iff]
    exact ⟨fun ⟨d, ms, hms, hd⟩ => ⟨ms, hms, d, hd⟩, fun ⟨ms, hms, d, hd⟩ => ⟨d, ms, hms, hd⟩⟩
  refine ⟨haccepts, ?_, hvalue, ?_⟩
  · rw [haccepts]
    cases v with
    | object ms => simp [Json.PlainRecord.membersOf?]
    -- An array is no object, so it must not be a device either.
    | array items =>
      constructor
      · intro h _ ms _ hms hdocument
        obtain ⟨_, he, -⟩ := h.1 ⟨ms, hms, hdocument⟩
        cases he
      · intro h
        constructor
        · rintro ⟨ms, hms, hdocument⟩
          exact absurd hdocument (h items ms rfl hms)
        · rintro ⟨_, he, -⟩
          cases he
    | _ => simp [Json.PlainRecord.membersOf?]
  · intro w args i path bytes wire depth doc hread hcommand hfile hlength hdoc hnames hnormal
    have hload : ∀ d, loadDevice w w.settings path = .ok d ↔
        DeviceDraft.record.IsShallow greatestDepth doc ∧ Device.decoder.ofValue v = .ok d := by
      intro d
      rw [hvalue, ← hnormal, ← Device.decoder_ofBytes_eq_ok_iff hdoc hnames, loadDevice_eq_ok_iff]
      constructor
      · rintro ⟨_, hfile', -, hd⟩
        cases hfile.symm.trans hfile'
        exact hd
      · exact fun hd => ⟨bytes, hfile, hlength, hd⟩
    refine ⟨fun hdepth => ?_, hload, ?_⟩
    · obtain ⟨c, hread, -⟩ := Json.readAll_eq_ok_iff.1 hdoc
      have hlevels := Json.levels_le_of_readDocument hread
      exact Json.PlainRecord.isShallow_of_levels (Nat.le_trans hlevels hdepth)
    · rw [validateDevice_exitCode_eq_zero_iff hread hcommand]
      simp only [hload, exists_and_left]

/-- A place where every file holds a text, and the settings cannot be read. -/
def holding (text : String) : Surroundings where
  env := []
  settingsPath := "config.toml"
  settingsText := some "="
  files _ := .ok (Text.bytes text)

/-- The words that validate a file as a device. -/
def validating : List String := ["device", "validate", "device.json"]

/-- An empty array is no object, and is a device nevertheless. -/
theorem empty_array_is_device :
    (∃ d, Device.decoder.ofValue (.array []) = .ok d) ∧ (∀ ms, Value.array [] ≠ .object ms) ∧
    (run (holding "[]") validating ⟨[], []⟩).1.ending.exitCode = 0 :=
  ⟨⟨{}, rfl⟩, by simp, rfl⟩

/-- A group may be named twice and other members may be anything, but a device is not in a group and
behind a gateway. An array gives the fields in order. -/
theorem devices_are_documents_groups :
    Device.decoder.ofValue (.object
      [("enabled", .null), ("memberOf", Device.listed ["b", "a", "b"]), ("other", .array [])]) =
        .ok { memberOf := ["a", "b"] } ∧
    (¬ ∃ d, Device.decoder.ofValue (.object
      [("memberOf", Device.listed ["a"]), ("via", Device.listed ["g"])]) = .ok d) ∧
    Device.decoder.ofValue (.array [.bool false]) = .ok { enabled := some false } ∧
    (run (holding "[false]") validating ⟨[], []⟩).1.ending.exitCode = 0 ∧
    (run (holding "null") validating ⟨[], []⟩).1.ending.exitCode ≠ 0 := by
  have hset : IsSetOf ["a", "b"] ["b", "a", "b"] := isSetOf_nameSet ["b", "a", "b"]
  have honce : ∀ ms : Json.Members, ms.names.Nodup → (Value.object ms).NamesOnce := by
    rintro ms hnodup _ ⟨⟩
    exact hnodup
  have hflag : Device.DescribedBy { enabled := some false } [("enabled", .bool false)] :=
    ⟨rfl, rfl, rfl, rfl, rfl, ⟨[], rfl, isSetOf_nameSet []⟩, rfl, ⟨[], rfl, isSetOf_nameSet []⟩,
      .inl rfl⟩
  have harray : (Value.array [.bool false]).NamesOnce := fun _ h => nomatch h
  have hnull : Value.null.NamesOnce := fun _ h => nomatch h
  -- A repeated name in a list, two relationships at once, a device by position, a file with one,
  -- and a file without a device.
  refine ⟨?_, ?_, ?_, ?_, ?_⟩
  · refine ((devices_are_documents (honce _ (by decide))).2.2.1 _).2 ⟨_, rfl, ?_⟩
    exact ⟨rfl, rfl, rfl, rfl, rfl, ⟨_, rfl, hset⟩, rfl, ⟨[], rfl, isSetOf_nameSet []⟩,
      .inr ⟨rfl, rfl⟩⟩
  · rw [(devices_are_documents (honce _ (by decide))).1]
    rintro ⟨ms, hms, hdocument⟩
    cases hms
    exact (hdocument.exclusive "a" [] rfl "g" []).1 rfl
  · exact ((devices_are_documents harray).2.2.1 _).2 ⟨_, rfl, hflag⟩
  · obtain ⟨-, -, hvalue, hfile⟩ := devices_are_documents harray
    obtain ⟨hshallow, -, hexit⟩ := hfile (holding "[false]") validating _ _ _ ⟨[], []⟩ 1 _
      rfl rfl rfl (by decide) rfl harray rfl
    exact hexit.2 ⟨hshallow (by decide), _, (hvalue _).2 ⟨_, rfl, hflag⟩⟩
  · obtain ⟨hvalue, -, -, hfile⟩ := devices_are_documents hnull
    obtain ⟨-, -, hexit⟩ := hfile (holding "null") validating _ _ _ ⟨[], []⟩ 0 _
      rfl rfl rfl (by decide) rfl hnull rfl
    rw [Ne, hexit, hvalue]
    rintro ⟨-, ms, hms, -⟩
    cases hms

end DeviceRegistry.CommandLine
