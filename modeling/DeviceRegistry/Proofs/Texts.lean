import DeviceRegistry.Proofs.Credential.Kept
import DeviceRegistry.Proofs.Device.Document
import DeviceRegistry.Proofs.Json.Direct

/-!
# `DeviceRegistry.Proofs.Texts`: devices and secrets are read from texts as from values

A device and each kind of secret can be decoded directly from a text, or from the value that the
text stands for. The value has forgotten all but the last member of a name, so a text is refused
when it repeats a name that matters, and else both come to the same. Main statement:

* `texts_agree_with_values`: devices and secrets.
-/

set_option autoImplicit false

namespace DeviceRegistry

open DeviceRegistry.Json

variable {ms : Members} {name : String}

/-! ### Fields -/

/-- The function of a hash is not written as an object. -/
def PasswordSecret.NamesFunction (doc : Value) : Prop :=
  ∀ ms, doc = .object ms → ∀ inner, ("hash-function", .object inner) ∉ ms

/-- What is no object does not become one when repeated members are dropped. -/
theorem Json.Value.normalize_ne_object {v : Value} (h : ∀ ms, v ≠ .object ms) :
    ∀ ms, v.normalize ≠ .object ms := by
  intro ms he
  cases v with
  | object inner => exact h inner rfl
  | _ => cases he

/-- A password is streamed unless its function is an object: all its other fields are strings, which
are the same in a text and in its value. -/
theorem PasswordSecret.own_streamsAt (hms : NamesFunction (.object ms)) :
    ∀ m ∈ ms, ∀ f, fieldOf? record.own m.1 = some f → f.decoder.StreamsAt m.2.normalize := by
  intro m hm f hf
  obtain ⟨hmem, hname⟩ := fieldOf?_eq_some hf
  have htext := (Decoder.streams_string.optional).streamsAt (v := m.2.normalize)
  simp only [record, List.mem_cons, List.not_mem_nil, or_false] at hmem
  rcases hmem with rfl | rfl | rfl | rfl
  -- A function is a choice, which is streamed unless it is made by an object.
  · refine
      ((Decoder.streamsAt_choice (Value.normalize_ne_object fun inner he => ?_)).optional).map _
    refine hms ms rfl inner ?_
    rw [← he, show "hash-function" = m.1 from hname]
    exact hm
  · exact htext.map _
  · exact htext.map _
  · exact htext.map _

/-- The only field of a pre-shared key is a string, and so it is streamed. -/
theorem PskSecret.own_streamsAt {v : Value} {f : Json.Field PskSecret}
    (hf : fieldOf? record.own name = some f) : f.decoder.StreamsAt v := by
  obtain ⟨hmem, -⟩ := fieldOf?_eq_some hf
  simp only [record, List.mem_cons, List.not_mem_nil, or_false] at hmem
  subst hmem
  exact Decoder.streams_string.streamsAt.map _

/-! ### The decoders -/

/-- A device is read from a text as from its value, as every field of its record is streamed. -/
theorem Device.decoder_agreesOn {P : Value → Prop} :
    decoder.AgreesOn DeviceDraft.record.names P :=
  (PlainRecord.agreesOn DeviceDraft.describes (fun _ _ _ h hd => hd.congr h)
    DeviceDraft.names_nodup fun _ hf => DeviceDraft.fields_stream hf).convert _

/-- A password is read from a text as from its value, if its function is not written as an
object. -/
theorem PasswordSecret.decoder_agreesOn :
    record.decoder.AgreesOn names NamesFunction :=
  Record.agreesOn describes (fun _ _ _ h hs => hs.congr h) fun _ hms => own_streamsAt hms

/-- A pre-shared key is read from a text as from its value. -/
theorem PskSecret.decoder_agreesOn {P : Value → Prop} : record.decoder.AgreesOn names P :=
  Record.agreesOn describes (fun _ _ _ h hs => hs.congr h) fun _ _ _ _ _ hf => own_streamsAt hf

/-- A client certificate is read from a text as from its value: it has no fields but the shared
ones. -/
theorem CertificateSecret.decoder_agreesOn {P : Value → Prop} :
    record.decoder.AgreesOn SecretInfo.names P := by
  refine Record.agreesOn describes (fun _ _ _ h hs => hs.congr h) fun _ _ _ _ f hf => ?_
  cases hf

/-- Devices and secrets are decoded directly from a text as from the value that the text stands for,
unless the text repeats a name that they know. -/
theorem texts_agree_with_values :
    (∀ bytes v, Value.ofBytes bytes = .ok v ↔
      ∃ doc, readAll (readDocument greatestDepth) bytes = .ok doc ∧ doc.normalize = v) ∧
    Device.decoder.AgreesOn ["enabled", "ext", "defaults", "via", "viaGroups", "memberOf", "mapper",
      "authorities"] (fun _ => True) ∧
    PasswordSecret.record.decoder.AgreesOn
      (SecretInfo.names ++ ["hash-function", "pwd-hash", "salt", "pwd-plain"])
      PasswordSecret.NamesFunction ∧
    PskSecret.record.decoder.AgreesOn (SecretInfo.names ++ ["key"]) (fun _ => True) ∧
    CertificateSecret.record.decoder.AgreesOn SecretInfo.names (fun _ => True) :=
  ⟨fun _ _ => Value.ofBytes_eq_ok_iff, Device.decoder_agreesOn, PasswordSecret.decoder_agreesOn,
    PskSecret.decoder_agreesOn, CertificateSecret.decoder_agreesOn⟩

/-- A document with two keys, and with two members of a vendor. -/
def keyedTwice : Value :=
  .object [("key", .string "YQ=="), ("vendor", .null), ("vendor", .bool true),
    ("key", .string "Yg==")]

/-- As a pre-shared key the text is refused, because it repeats the key, and its value has the later
key. As a password, which knows no key, it is the empty secret. -/
theorem texts_agree_with_values_keyedTwice :
    readAll (readDocument greatestDepth) (Text.bytes keyedTwice.render) = .ok keyedTwice ∧
    (∀ s, PskSecret.record.decoder.ofBytes (Text.bytes keyedTwice.render) ≠ .ok s) ∧
    PskSecret.record.decoder.ofValue keyedTwice.normalize = .ok { key := "Yg==" } ∧
    PasswordSecret.record.decoder.ofBytes (Text.bytes keyedTwice.render) = .ok {} := by
  have hread : readAll (readDocument greatestDepth) (Text.bytes keyedTwice.render) =
      .ok keyedTwice :=
    except_eq_ok_of_toOption (by decide +kernel)
  obtain ⟨-, -, hpassword, hpsk, -⟩ := texts_agree_with_values
  refine ⟨hread, fun s hs => ?_, except_eq_ok_of_toOption (by decide +kernel), ?_⟩
  · have honce := ((hpsk.direct _ _ hread trivial s).1 hs).2
    exact honce ⟨_, "key", rfl, by decide, by decide⟩
  -- The document has no function at all, so it is not written as an object.
  · have hfunction : PasswordSecret.NamesFunction keyedTwice := by
      rintro ms he inner
      cases he
      simp
    refine (hpassword.direct _ _ hread hfunction {}).2
      ⟨except_eq_ok_of_toOption (by decide +kernel), ?_⟩
    rw [keyedTwice, Value.repeats_object_iff]
    decide

end DeviceRegistry
