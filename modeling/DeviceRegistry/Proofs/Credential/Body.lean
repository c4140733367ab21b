import DeviceRegistry.Proofs.Credential.DecodeAll
import DeviceRegistry.Proofs.Credential.RoundTrip
import DeviceRegistry.Proofs.Json.RoundTrip
import DeviceRegistry.Proofs.Management.Body

/-!
# `DeviceRegistry.Proofs.Credential.Body`: bodies that tell credentials

The credentials of a body are written as an array again, and that array is a body with the same
credentials. Main statements:

* `levels_document_of_decode`: writing a credential nests nothing deeper than it was read.
* `decodeAll_encodeAll`: lawful credentials are decoded from the array of them.
* `decodeBody_of_laidOut`, `decodeBody_encodeAll`: the credentials of a body are those of every text
  of their documents, and of the text of their array.
-/

set_option autoImplicit false

namespace DeviceRegistry

open DeviceRegistry.Json

variable {depth : Nat} {ms : Members}

/-! ### Levels -/

/-- An object has one level more than the deepest of its members; those that are not present do not
count. -/
theorem Json.Value.levels_ofPresent_le_iff {l : List (Option (String × Value))} :
    (Value.ofPresent l).levels ≤ depth + 1 ↔ ∀ m, some m ∈ l → m.2.levels ≤ depth := by
  rw [Value.ofPresent, Value.levels_object_le_iff]
  simp

/-- Whatever is found in an object is one level less deep. It bounds what a credential takes over
from an object as it is. -/
theorem Json.Members.levels_of_get? {k : String} {v : Value}
    (hms : (Value.object ms).levels ≤ depth + 1) (h : ms.get? k = some v) : v.levels ≤ depth :=
  Value.levels_object_le_iff.1 hms _ (Members.mem_of_get? h)

/-- An object of texts and truth values. -/
def Json.Value.IsFlat (v : Value) : Prop :=
  ∃ ms, v = .object ms ∧ ∀ m ∈ ms, (∃ s, m.2 = .string s) ∨ ∃ b, m.2 = .bool b

/-- Flat documents have a single level, as none of their members has a level of its own. So no limit
on levels is met by secrets. -/
theorem Json.Value.IsFlat.levels_le {v : Value} (h : v.IsFlat) : v.levels ≤ 1 := by
  obtain ⟨ms, rfl, hms⟩ := h
  rw [Value.levels_object_le_iff]
  intro m hm
  rcases hms m hm with ⟨s, hs⟩ | ⟨b, hb⟩
  · rw [hs]
    exact Nat.le_refl 0
  · rw [hb]
    exact Nat.le_refl 0

/-- Flat documents have no numbers, so they are whole. Every secret is written exactly, then,
whatever it says. -/
theorem Json.Value.IsFlat.isWhole {v : Value} (h : v.IsFlat) : v.IsWhole := by
  obtain ⟨ms, rfl, hms⟩ := h
  rw [Value.isWhole_object]
  intro m hm
  rcases hms m hm with ⟨s, hs⟩ | ⟨b, hb⟩
  · rw [hs]
    trivial
  · rw [hb]
    trivial

/-- A secret is flat when what is written beside the shared fields is. Those are texts and a truth
value. -/
theorem SecretInfo.isFlat_members {i : SecretInfo} {l : List (Option (String × Value))}
    (hl : ∀ m, some m ∈ l → ∃ s, m.2 = .string s) : (Value.ofPresent (i.members ++ l)).IsFlat := by
  refine ⟨_, rfl, fun m hm => ?_⟩
  obtain ⟨o, ho, rfl⟩ := List.mem_filterMap.1 hm
  rcases List.mem_append.1 ho with hi | hmem
  · simp only [members, List.mem_cons, List.not_mem_nil, or_false] at hi
    rcases hi with h | h | h | h | h <;> obtain ⟨a, -, rfl⟩ := Option.map_eq_some_iff.1 h.symm
    · exact .inl ⟨_, rfl⟩
    · exact .inr ⟨_, rfl⟩
    · exact .inl ⟨_, rfl⟩
    · exact .inl ⟨_, rfl⟩
    · exact .inl ⟨_, rfl⟩
  · exact .inl (hl m hmem)

/-- A password is written flat, as all of its own fields are texts. -/
theorem PasswordSecret.isFlat_document (s : PasswordSecret) : s.document.IsFlat := by
  refine SecretInfo.isFlat_members fun m hm => ?_
  simp only [List.mem_cons, List.not_mem_nil, or_false] at hm
  rcases hm with h | h | h | h <;>
    obtain ⟨a, -, rfl⟩ := Option.map_eq_some_iff.1 h.symm <;>
    exact ⟨_, rfl⟩

/-- So is a pre-shared key, whose own field is a text like the shared ones. -/
theorem PskSecret.isFlat_document (s : PskSecret) : s.document.IsFlat := by
  refine SecretInfo.isFlat_members fun m hm => ?_
  obtain rfl := Option.some.inj (List.mem_singleton.1 hm)
  exact ⟨_, rfl⟩

/-- So is a certificate, which has only the shared fields, and nothing that could be deeper than a
text. -/
theorem CertificateSecret.isFlat_document (s : CertificateSecret) : s.document.IsFlat := by
  have hdocument := SecretInfo.isFlat_members (i := s.info) (l := []) nofun
  rwa [List.append_nil] at hdocument

namespace Credential

variable {c : Credential}

/-- A list of secrets that was read is written no deeper than it was. Secrets of a known kind are
written flat, and those of an unknown type are written as they were read. -/
theorem levels_documents_of_describedBy {s : Secrets}
    (hms : (Value.object ms).levels ≤ depth + 3) (h : s.DescribedBy ms) :
    (Value.array s.documents).levels ≤ depth + 2 := by
  -- A list of flat objects has two levels.
  have hflat : ∀ {α : Type} {document : α → Value} (l : List α),
      (∀ a, (document a).IsFlat) → (Value.array (l.map document)).levels ≤ depth + 2 := by
    intro α document l hdocument
    rw [Value.levels_array_le_iff, List.forall_mem_map]
    intro a _
    exact Nat.le_trans (hdocument a).levels_le (Nat.le_add_left 1 depth)
  cases s with
  | password l => exact hflat l PasswordSecret.isFlat_document
  | psk l => exact hflat l PskSecret.isFlat_document
  | certificate l => exact hflat l CertificateSecret.isFlat_document
  | generic name l extra =>
    obtain ⟨-, hsecrets, -⟩ := h
    rw [Secrets.documents, Value.levels_array_le_iff, List.forall_mem_map]
    intro secret hsecret
    cases hv : ms.get? "secrets" with
    | none =>
      rw [(Members.Reads.of_none hv).1 hsecrets] at hsecret
      cases hsecret
    | some v =>
      obtain ⟨vs, rfl, hvs⟩ := Decoder.list_eq_ok ((Members.Reads.of_some hv).1 hsecrets)
      obtain ⟨w, hw, hdecode⟩ := Decoder.exists_of_itemsOf hvs secret hsecret
      rw [Decoder.members_eq_ok] at hdecode
      subst hdecode
      exact Value.levels_array_le_iff.1 (Members.levels_of_get? hms hv) _ hw

/-- The extensions are written as they were read, one level below the object that they were read
from. -/
theorem levels_ext_of_describedBy {i : CredentialInfo} (hms : (Value.object ms).levels ≤ depth + 1)
    (h : i.DescribedBy ms) (hext : i.ext ≠ []) : (Value.object i.ext).levels ≤ depth := by
  cases hv : ms.get? "ext" with
  | none => exact absurd ((Members.Reads.of_none hv).1 h.ext) hext
  | some v =>
    have hdecode := (Members.Reads.of_some hv).1 h.ext
    rw [Decoder.members_eq_ok] at hdecode
    subst hdecode
    exact Members.levels_of_get? hms hv

/-- So are the members that are left over of an unknown type. -/
theorem levels_extra_of_describedBy {s : Secrets} (hms : (Value.object ms).levels ≤ depth + 1)
    (h : s.DescribedBy ms) : ∀ m ∈ s.extra, m.2.levels ≤ depth := by
  cases s with
  | generic name l extra =>
    obtain ⟨-, -, rfl⟩ := h
    intro m hm
    exact Value.levels_object_le_iff.1 hms m (List.mem_filter.1 hm).1
  | password _ | psk _ | certificate _ => nofun

/-- Writing a credential nests nothing deeper than it was read. The three levels are those of an
object, a list of secrets and a flat secret, which are written even where they were not read. -/
theorem levels_document_of_decode (hnormal : ms.IsNormal)
    (hms : (Value.object ms).levels ≤ depth + 3) (h : decode ms = .ok c) :
    c.document.levels ≤ depth + 3 := by
  obtain ⟨-, -, -, -, hinfo, hsecrets, -⟩ := (decode_eq_ok_iff hnormal.sorted.nodup_names).1 h
  rw [document, Value.levels_ofPresent_le_iff]
  intro m hm
  -- hm| Flags and texts have no levels. What is nested is the extension, the secrets, and what else
  -- a credential without a known type has.
  rcases List.mem_append.1 hm with hm | hm
  · simp only [List.mem_cons, List.not_mem_nil, or_false] at hm
    rcases hm with h | h | h | h | h | h
    · cases h
      exact Nat.zero_le _
    · cases h
      exact Nat.zero_le _
    · obtain ⟨b, -, rfl⟩ := Option.map_eq_some_iff.1 h.symm
      exact Nat.zero_le _
    · obtain ⟨text, -, rfl⟩ := Option.map_eq_some_iff.1 h.symm
      exact Nat.zero_le _
    · split at h
      · cases h
      · rename_i hext
        cases h
        exact levels_ext_of_describedBy hms hinfo (by simpa using hext)
    · cases h
      exact levels_documents_of_describedBy hms hsecrets
  · obtain ⟨m', hm', hsome⟩ := List.mem_map.1 hm
    obtain rfl := Option.some.inj hsome
    exact levels_extra_of_describedBy hms hsecrets _ hm'

/-! ### Arrays of credentials -/

variable {cs : List Credential} {items : List Value} {body : List UInt8}

/-- The objects in a body that was read are in normal form, as reading a text brings all of it into
that form. -/
theorem isNormal_of_mem_objectsOf (hbody : Value.ofBytes body = .ok (.array items))
    (h : ms ∈ objectsOf items) : ms.IsNormal :=
  Value.isNormal_array.1 (ofBytes_isNormal hbody).1 _ (mem_objectsOf_iff.1 h)

/-- Every credential is decoded from one of the objects, namely the one at its place. -/
theorem exists_of_mem_decodeAll (h : decodeAll items = .ok cs) (hc : c ∈ cs) :
    ∃ ms ∈ objectsOf items, decode ms = .ok c := by
  rw [decodeAll_eq_ok_iff] at h
  -- Along the pairs of objects and credentials.
  generalize objectsOf items = l at h ⊢
  induction h with
  | nil => cases hc
  | cons hdecode _ ih =>
    rcases List.mem_cons.1 hc with rfl | hc
    · exact ⟨_, List.mem_cons_self, hdecode⟩
    · obtain ⟨ms, hms, hdecode⟩ := ih hc
      exact ⟨ms, List.mem_cons_of_mem _ hms, hdecode⟩

/-- Each credential is encoded in normal form, and an array asks for nothing else. -/
theorem isNormal_encodeAll (cs : List Credential) : (Value.array (encodeAll cs)).IsNormal := by
  rw [Value.isNormal_array, encodeAll, List.forall_mem_map]
  exact fun c _ => Value.isNormal_normalize c.document

/-- Lawful credentials are decoded from the array of them. Each is encoded as an object, so none of
the items is passed over. -/
theorem decodeAll_encodeAll (h : ∀ c ∈ cs, c.IsStorable ∧ c.IsLawful) :
    decodeAll (encodeAll cs) = .ok cs := by
  rw [decodeAll_eq_ok_iff, encodeAll]
  induction cs with
  | nil => exact .nil
  | cons c cs ih =>
    obtain ⟨hstorable, hlawful⟩ := h c List.mem_cons_self
    rw [List.map_cons, encode_eq_object, objectsOf]
    refine .cons (decode_encoded hstorable hlawful) (ih fun c' hc' => ?_)
    exact h c' (List.mem_cons_of_mem _ hc')

/-- The credentials of a body are decoded from the array of them, since what has been decoded is
lawful. -/
theorem decodeAll_encodeAll_of_body (hbody : Value.ofBytes body = .ok (.array items))
    (h : decodeAll items = .ok cs) : decodeAll (encodeAll cs) = .ok cs := by
  refine decodeAll_encodeAll fun c hc => ?_
  obtain ⟨ms, hms, hc⟩ := exists_of_mem_decodeAll h hc
  exact isLawful_of_decode (isNormal_of_mem_objectsOf hbody hms) hc

/-- The documents of the credentials of a body stand for the array of them: normal forms are taken
item by item. -/
theorem documents_normalize (cs : List Credential) :
    (Value.array (cs.map document)).normalize = .array (encodeAll cs) := by
  rw [Value.normalize_array, List.map_map]
  rfl

/-- The documents of the credentials of a body are no deeper than a body may be: their array is one
level, and each of them is as deep as one that was read. -/
theorem levels_documents_of_body (hbody : Value.ofBytes body = .ok (.array items))
    (h : decodeAll items = .ok cs) : (Value.array (cs.map document)).levels ≤ greatestDepth := by
  have hitems := Value.levels_array_le_iff.1 (ofBytes_isNormal hbody).2
  rw [greatestDepth, Value.levels_array_le_iff, List.forall_mem_map]
  intro c hc
  obtain ⟨ms, hms, hc⟩ := exists_of_mem_decodeAll h hc
  exact levels_document_of_decode (isNormal_of_mem_objectsOf hbody hms)
    (hitems _ (mem_objectsOf_iff.1 hms)) hc

/-- A body with an array whose items can be decoded is not empty, so that it is not mistaken for a
missing one. -/
theorem decodeBody_of_items (hbody : Value.ofBytes body = .ok (.array items))
    (h : decodeAll items = .ok cs) : decodeBody body = .ok cs := by
  refine Management.Endpoint.decodeBody_eq_ok_iff.2 ⟨?_, items, hbody, h⟩
  rintro rfl
  cases hbody

/-- The credentials of a body are those of every text of their documents, wherever blanks stand in
it, when all numbers are whole. So it does not matter in which format the documents were printed as
JSON. -/
theorem decodeBody_of_laidOut {text : String} {chars after : List Char}
    (hbody : Value.ofBytes body = .ok (.array items)) (h : decodeAll items = .ok cs)
    (hwhole : ∀ c ∈ cs, c.document.IsWhole)
    (hlaid : LaidOut (.array (cs.map document)) chars) (hafter : AreBlank after)
    (htext : text.toList = chars ++ after) : decodeBody (Text.bytes text) = .ok cs := by
  have hdocuments : (Value.array (cs.map document)).IsWhole :=
    Value.isWhole_array.2 (List.forall_mem_map.2 hwhole)
  have hread := ofBytes_of_laidOut hlaid hdocuments (levels_documents_of_body hbody h) hafter htext
  rw [documents_normalize] at hread
  exact decodeBody_of_items hread (decodeAll_encodeAll_of_body hbody h)

/-- The credentials of a body are those of the text of their array, when all numbers in it are
whole. A service that hands back what it was given gives back the same credentials. -/
theorem decodeBody_encodeAll (h : decodeBody body = .ok cs)
    (hwhole : (Value.array (encodeAll cs)).IsWhole) :
    decodeBody (Text.bytes (Value.array (encodeAll cs)).render) = .ok cs := by
  obtain ⟨-, items, hbody, hdecode⟩ := Management.Endpoint.decodeBody_eq_ok_iff.1 h
  have hlevels : (Value.array (encodeAll cs)).levels ≤ greatestDepth := by
    rw [← documents_normalize]
    exact Nat.le_trans (Value.levels_normalize_le _) (levels_documents_of_body hbody hdecode)
  exact decodeBody_of_items (ofBytes_render (isNormal_encodeAll cs) hwhole hlevels)
    (decodeAll_encodeAll_of_body hbody hdecode)

end Credential

end DeviceRegistry
