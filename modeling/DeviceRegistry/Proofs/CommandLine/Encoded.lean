import DeviceRegistry.Proofs.CommandLine.Normalizing

/-!
# `DeviceRegistry.Proofs.CommandLine.Encoded`: what is printed stands for what is sent

A credential has two forms. Commands print its document, whose members stand in the order of its
fields and may repeat a name that the other members of an unknown type take. The client and the
endpoint send its encoding, which is sorted and repeats nothing. Main statements:

* `isWhole_document`: only what is opaque in a credential can hold numbers.
* `get?_encoded_written`: the encoding holds the last value that is written for a name.
* `printed_means_encoded`: the printed text is read as the encoding.
-/

set_option autoImplicit false

namespace DeviceRegistry

open DeviceRegistry.Json

/-! ### Numbers -/

/-- All numbers in documents among the secrets, and in other members, are whole. -/
def Secrets.HasWholeNumbers : Secrets → Prop
  | generic _ l extra => (∀ ms ∈ l, (Value.object ms).IsWhole) ∧ (Value.object extra).IsWhole
  | _ => True

namespace Credential

variable {c : Credential} {cs : List Credential} {k : String}

/-- All numbers in what is opaque in a credential are whole. -/
structure HasWholeNumbers (c : Credential) : Prop where
  ext : (Value.object c.info.ext).IsWhole
  secrets : c.secrets.HasWholeNumbers

/-- The documents of secrets have no numbers but those in secrets of an unknown type, since all
fields of the known ones are texts and flags. -/
theorem isWhole_documents {s : Secrets} (h : s.HasWholeNumbers) :
    (Value.array s.documents).IsWhole := by
  rw [Value.isWhole_array]
  cases s with
  | password l => exact List.forall_mem_map.2 fun s _ => s.isFlat_document.isWhole
  | psk l => exact List.forall_mem_map.2 fun s _ => s.isFlat_document.isWhole
  | certificate l => exact List.forall_mem_map.2 fun s _ => s.isFlat_document.isWhole
  | generic name l extra => exact List.forall_mem_map.2 h.1

/-- The same of the members that a type brings along: only an unknown type has any. -/
theorem isWhole_extra {s : Secrets} (h : s.HasWholeNumbers) : (Value.object s.extra).IsWhole := by
  cases s with
  | generic name l extra => exact h.2
  | password _ | psk _ | certificate _ => trivial

/-! ### What is written -/

/-- The members of a credential in the order in which they are written. -/
def written (c : Credential) : Members :=
  Members.present (c.commonMembers ++ c.secrets.extra.map some)

/-- The document of a credential is the object of its members as they are written. Stated as an
equation, it lets the numbers be looked for among the members. -/
theorem document_eq_written (c : Credential) : c.document = .object c.written := rfl

/-- The fields stand in front, the type first; the members that an unknown type brings along follow,
and may repeat a name of a field. -/
theorem written_eq (c : Credential) :
    c.written = [("type", .string c.typeName), ("auth-id", .string c.info.authId)] ++
      (c.info.enabled.map fun b => ("enabled", Value.bool b)).toList ++
      (c.info.comment.map fun s => ("comment", Value.string s)).toList ++
      (if c.info.ext = [] then [] else [("ext", .object c.info.ext)]) ++
      [("secrets", .array c.secrets.documents)] ++ c.secrets.extra := by
  rw [written, Members.present_append, Members.present_map_some]
  congr 1
  unfold commonMembers
  cases c.info.enabled <;> cases c.info.comment <;> cases c.info.ext <;> rfl

/-- The numbers in what is written are those in what is opaque, since the fields of a credential are
texts and flags: other members, secrets of an unknown type and what comes along with them. -/
theorem isWhole_document (h : c.HasWholeNumbers) : c.document.IsWhole := by
  rw [document_eq_written, written_eq, Value.isWhole_object]
  intro m hm
  simp only [List.mem_append, List.mem_cons, List.not_mem_nil, or_false, Option.mem_toList,
    Option.map_eq_some_iff] at hm
  rcases hm with ((((hm | ⟨b, -, rfl⟩) | ⟨s, -, rfl⟩) | hext) | rfl) | hextra
  · rcases hm with rfl | rfl <;> trivial
  · trivial
  · trivial
  · split at hext
    · cases hext
    · rw [List.mem_singleton.1 hext]
      exact h.ext
  · exact isWhole_documents h.secrets
  · exact Value.isWhole_object.1 (isWhole_extra h.secrets) m hextra

/-- The encoding holds the last value that is written for a name, as the normal form of members with
repeated names does. -/
theorem get?_encoded_written : c.encoded.get? k =
    (Members.get? k c.written.reverse).map Value.normalize := by
  rw [encoded, ← written, Members.get?_normalForm]

end Credential

open Credential
open CommandLine (printed toList_printed)

/-- A document is read from what a JSON format makes of it, as it was written, and stands for its
normal form. It may be as deep as texts can be. -/
theorem Format.IsJson.reads {f : Format} {v : Value} {after : List Char} {text : String}
    (hf : f.IsJson) (hwhole : v.IsWhole) (hlevels : v.levels ≤ greatestDepth)
    (hafter : AreBlank after) (htext : text.toList = (f.render v).toList ++ after) :
    readAll (readDocument greatestDepth) (Text.bytes text) = .ok v ∧
      Value.ofBytes (Text.bytes text) = .ok v.normalize :=
  ⟨readAll_of_laidOut (hf.laidOut v) hwhole hlevels hafter htext,
    ofBytes_of_laidOut (hf.laidOut v) hwhole hlevels hafter htext⟩

/-- The text of a credential shows its members in the order of its fields, with what an unknown type
brings along behind them, and is read as its encoding: sorted, and with the last value of a name
that stands twice. So are the credentials that a command prints. -/
theorem printed_means_encoded {f : Format} (hf : f.IsJson) :
    (∀ c : Credential, c.HasWholeNumbers → c.document.levels ≤ greatestDepth →
      readAll (readDocument greatestDepth) (Text.bytes (f.render c.document)) =
        .ok (.object c.written) ∧
      Value.ofBytes (Text.bytes (f.render c.document)) = .ok c.encode) ∧
    (∀ cs : List Credential, (∀ c ∈ cs, c.HasWholeNumbers) →
      (Value.array (cs.map document)).levels ≤ greatestDepth →
      Value.ofBytes (Text.bytes (printed false (report f cs))) = .ok (.array (encodeAll cs))) ∧
    ∀ c : Credential, ∃ ms : Members, c.encode = .object ms ∧ ms.IsNormal ∧
      ∀ k, ms.get? k = (Members.get? k c.written.reverse).map Value.normalize := by
  -- A single credential is read without a line end behind it, a list with the one that is printed.
  refine ⟨fun c hnumbers hlevels => ?_, fun cs hnumbers hlevels => ?_, fun c => ?_⟩
  · have htext : (f.render c.document).toList = (f.render c.document).toList ++ [] :=
      (List.append_nil _).symm
    exact hf.reads (isWhole_document hnumbers) hlevels areBlank_nil htext
  · have hwhole : (Value.array (cs.map document)).IsWhole :=
      Value.isWhole_array.2 (List.forall_mem_map.2 fun c hc => isWhole_document (hnumbers c hc))
    have htext := toList_printed (report_ne_empty f cs)
    rw [report_eq_render hf.ne_table] at htext
    have hread := (hf.reads hwhole hlevels areBlank_lineEnd htext).2
    rwa [documents_normalize, ← report_eq_render hf.ne_table] at hread
  · exact ⟨c.encoded, encode_eq_object c, isNormal_encoded c, fun k => get?_encoded_written⟩

/-- Other members of a vendor that take a name twice over: the comment, and the secrets. -/
def shadowedSecrets : Credential where
  info := { authId := "a", comment := some "ours" }
  secrets := .generic "vendor" [] [("comment", .string "theirs"), ("secrets", .bool false)]

/-- What is printed holds both comments, and what is sent the later one: the members that a vendor's
type brings along are written last, so they count. -/
theorem printed_means_encoded_shadowed :
    shadowedSecrets.document.render = "\x7b\"type\":\"vendor\",\"auth-id\":\"a\"," ++
      "\"comment\":\"ours\",\"secrets\":[],\"comment\":\"theirs\",\"secrets\":false\x7d" ∧
    Value.ofBytes (Text.bytes shadowedSecrets.document.render) = .ok (.object
      [("auth-id", .string "a"), ("comment", .string "theirs"), ("secrets", .bool false),
        ("type", .string "vendor")]) := by
  have hnumbers : shadowedSecrets.HasWholeNumbers :=
    ⟨trivial, nofun, Value.isWhole_object.2 (by simp [Value.IsWhole])⟩
  refine ⟨by decide +kernel, ?_⟩
  have hencode : shadowedSecrets.encode = .object
      [("auth-id", .string "a"), ("comment", .string "theirs"), ("secrets", .bool false),
        ("type", .string "vendor")] := by
    decide +kernel
  rw [← hencode]
  exact ((printed_means_encoded (f := .compactJson) (.inr rfl)).1 shadowedSecrets hnumbers
    (by decide +kernel)).2

end DeviceRegistry
