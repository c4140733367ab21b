import DeviceRegistry.Proofs.Credential.Secret

/-!
# `DeviceRegistry.Proofs.Credential.Decode`: which objects are credentials

A credential is described by the members of an object when each part of it is what the member of
that name says. Main statements:

* `decodeAs_eq_ok_iff`: an object is decoded by its type as the credential that it describes.
* `decode_eq_ok_iff`: an object is decoded as the credential that it describes when that credential
  obeys the rules.
-/

set_option autoImplicit false

namespace DeviceRegistry

open DeviceRegistry.Json

variable {ms : Members} {v : Value}

/-! ### What is common to all types -/

namespace CredentialInfo

/-- Members say what the common fields hold. -/
structure DescribedBy (i : CredentialInfo) (ms : Members) : Prop where
  authId : ms.Reads "auth-id" .string "" i.authId
  enabled : ms.Reads "enabled" (.optional .boolean) none i.enabled
  comment : ms.Reads "comment" (.optional .string) none i.comment
  ext : ms.Reads "ext" .members [] i.ext

/-- Members say one thing about each field, so only one credential fits. -/
theorem DescribedBy.unique {i j : CredentialInfo} (hi : i.DescribedBy ms)
    (hj : j.DescribedBy ms) : i = j := by
  obtain ⟨iauthId, ienabled, icomment, iext⟩ := i
  obtain ⟨jauthId, jenabled, jcomment, jext⟩ := j
  obtain rfl : iauthId = jauthId := hi.authId.unique hj.authId
  obtain rfl : ienabled = jenabled := hi.enabled.unique hj.enabled
  obtain rfl : icomment = jcomment := hi.comment.unique hj.comment
  obtain rfl : iext = jext := hi.ext.unique hj.ext
  rfl

end CredentialInfo

namespace Credential

section

variable {α : Type} {secret : Decoder α}

/-- The fields of a credential are those of its table. The type is none of them, since it is taken
out before. -/
theorem hasField_iff {k : String} :
    (record secret).hasField k = true ↔
      k ∈ ["secrets", "auth-id", "enabled", "comment", "ext"] := by
  simp [Record.hasField, record, isField_iff, infoFields, Json.Field.of, eq_comm (a := k)]

/-- The fields of a credential in the making, each with what it carries. Every field fills the part
of its own name, and keeps the other parts. -/
theorem field_carries {f : Json.Field (CredentialInfo × List α)}
    (hf : f ∈ (record secret).own ∨ f ∈ (record secret).shared) :
    f.Carries "auth-id" .string (fun s => s.1.authId) ∧
    f.Carries "enabled" (.optional .boolean) (fun s => s.1.enabled) ∧
    f.Carries "comment" (.optional .string) (fun s => s.1.comment) ∧
    f.Carries "ext" .members (fun s => s.1.ext) ∧
    f.Carries "secrets" (.list secret) (fun s => s.2) := by
  simp only [record, infoFields, List.mem_cons, List.not_mem_nil, or_false] at hf
  rcases hf with rfl | rfl | rfl | rfl | rfl <;>
    refine ⟨?_, ?_, ?_, ?_, ?_⟩ <;>
    exact Json.Field.of_carries (by simp) (by simp)

/-- What the table of a credential makes of members. It is sound, as every field is carried by the
one of its name; only one credential fits; and members that describe one can be read. -/
theorem describes : (record secret).Describes fun ms s =>
    s.1.DescribedBy ms ∧ ms.Reads "secrets" (.list secret) [] s.2 where
  sound ms s others hnodup h := by
    have hown : ∀ f ∈ (record secret).own, _ := fun f hf => field_carries (.inl hf)
    have hshared : ∀ f ∈ (record secret).shared, _ := fun f hf => field_carries (.inr hf)
    -- Each component is set by one field and left alone by the others, of either kind.
    refine ⟨⟨?_, ?_, ?_, ?_⟩, ?_⟩
    · exact Record.ofMembers_reads h hnodup (hasField_iff.2 (by decide))
        (fun f hf => (hown f hf).1) fun f hf => (hshared f hf).1
    · exact Record.ofMembers_reads h hnodup (hasField_iff.2 (by decide))
        (fun f hf => (hown f hf).2.1) fun f hf => (hshared f hf).2.1
    · exact Record.ofMembers_reads h hnodup (hasField_iff.2 (by decide))
        (fun f hf => (hown f hf).2.2.1) fun f hf => (hshared f hf).2.2.1
    · exact Record.ofMembers_reads h hnodup (hasField_iff.2 (by decide))
        (fun f hf => (hown f hf).2.2.2.1) fun f hf => (hshared f hf).2.2.2.1
    · exact Record.ofMembers_reads h hnodup (hasField_iff.2 (by decide))
        (fun f hf => (hown f hf).2.2.2.2) fun f hf => (hshared f hf).2.2.2.2
  unique ms s t hs ht := Prod.ext (hs.1.unique ht.1) (hs.2.unique ht.2)
  own ms s hs f hf := by
    simp only [record, List.mem_cons, List.not_mem_nil, or_false] at hf
    subst hf
    exact Json.Field.exists_of_reads hs.2
  shared ms s hs f hf := by
    simp only [record, infoFields, List.mem_cons, List.not_mem_nil, or_false] at hf
    rcases hf with rfl | rfl | rfl | rfl
    · exact Json.Field.exists_of_reads hs.1.authId
    · exact Json.Field.exists_of_reads hs.1.enabled
    · exact Json.Field.exists_of_reads hs.1.comment
    · exact Json.Field.exists_of_reads hs.1.ext

/-- The common fields, the secrets and the rest are taken from members that say what they are. The
rest are the members under other names. -/
theorem fieldsOf_eq_ok_iff {typeName : String} {info : CredentialInfo} {l : List α}
    {others : Members} (hnodup : ms.names.Nodup) :
    fieldsOf typeName secret ms = .ok (info, l, others) ↔
      info.DescribedBy ms ∧ ms.Reads "secrets" (.list secret) [] l ∧
        others = ms.filter fun m => !(record secret).hasField m.1 := by
  unfold fieldsOf
  constructor
  · intro h
    split at h
    · rename_i info' l' others' hfields
      cases h
      obtain ⟨hinfo, hsecrets⟩ := describes.sound ms _ _ hnodup hfields
      exact ⟨hinfo, hsecrets, Record.ofMembers_others hfields⟩
    · cases h
  · rintro ⟨hinfo, hsecrets, rfl⟩
    -- What describes the fields is decoded as them, with the rest left over.
    rw [describes.ofMembers hnodup (s := (info, l)) ⟨hinfo, hsecrets⟩]

/-- A type that the registry knows decodes to the secrets of its kind. What is left over of the
members is dropped. -/
theorem decodeKind_eq_ok_iff {typeName : String} {kind : List α → Secrets} {c : Credential}
    (hnodup : ms.names.Nodup) :
    (do let (info, l, _) ← fieldsOf typeName secret ms
        return (⟨info, kind l⟩ : Credential)) = .ok c ↔
      c.info.DescribedBy ms ∧ ∃ l, c.secrets = kind l ∧ ms.Reads "secrets" (.list secret) [] l := by
  rw [except_bind_eq_ok]
  constructor
  · rintro ⟨⟨info, l, others⟩, h, he⟩
    cases he
    obtain ⟨hinfo, hsecrets, -⟩ := (fieldsOf_eq_ok_iff hnodup).1 h
    exact ⟨hinfo, l, rfl, hsecrets⟩
  · obtain ⟨info, secrets⟩ := c
    rintro ⟨hinfo, l, rfl, hsecrets⟩
    exact ⟨(info, l, _), (fieldsOf_eq_ok_iff hnodup).2 ⟨hinfo, hsecrets, rfl⟩, rfl⟩

end

end Credential

/-! ### Decoding by the type -/

/-- Members say what the secrets of a credential are, and the other members of an unknown type are
those that have no meaning of their own. -/
def Secrets.DescribedBy : Secrets → Members → Prop
  | password l, ms => ms.Reads "secrets" (.list PasswordSecret.record.decoder) [] l
  | psk l, ms => ms.Reads "secrets" (.list PskSecret.record.decoder) [] l
  | certificate l, ms => ms.Reads "secrets" (.list CertificateSecret.record.decoder) [] l
  | generic name l extra, ms =>
    name ∉ ["hashed-password", "psk", "x509-cert"] ∧ ms.Reads "secrets" (.list .members) [] l ∧
      extra = ms.filter fun m => m.1 ∉ reservedNames

namespace Secrets

variable {s : Secrets} {name : String}

/-- Secrets that are described and have the type of passwords are passwords. An unknown type does
not take the name of a known one. -/
theorem describedBy_password_iff : s.typeName = passwordType ∧ s.DescribedBy ms ↔
    ∃ l, s = .password l ∧ ms.Reads "secrets" (.list PasswordSecret.record.decoder) [] l := by
  cases s with
  | password l => simp [typeName, DescribedBy]
  | psk l => simp [typeName, passwordType, pskType]
  | certificate l => simp [typeName, passwordType, certificateType]
  | generic name l extra =>
    simp only [typeName, DescribedBy, passwordType, reduceCtorEq, false_and, exists_false,
      iff_false]
    rintro ⟨rfl, hname, -⟩
    exact hname (by simp)

/-- Secrets that are described and have the type of pre-shared keys are such keys. The other kinds
have other types, and a kept kind never has the name of a known one. -/
theorem describedBy_psk_iff : s.typeName = pskType ∧ s.DescribedBy ms ↔
    ∃ l, s = .psk l ∧ ms.Reads "secrets" (.list PskSecret.record.decoder) [] l := by
  cases s with
  | password l => simp [typeName, passwordType, pskType]
  | psk l => simp [typeName, DescribedBy]
  | certificate l => simp [typeName, pskType, certificateType]
  | generic name l extra =>
    simp only [typeName, DescribedBy, pskType, reduceCtorEq, false_and, exists_false, iff_false]
    rintro ⟨rfl, hname, -⟩
    exact hname (by simp)

/-- Secrets that are described and have the type of certificates are certificates, for the same
reason as with pre-shared keys: the name of the type decides on the kind. -/
theorem describedBy_certificate_iff : s.typeName = certificateType ∧ s.DescribedBy ms ↔
    ∃ l, s = .certificate l ∧
      ms.Reads "secrets" (.list CertificateSecret.record.decoder) [] l := by
  cases s with
  | password l => simp [typeName, passwordType, certificateType]
  | psk l => simp [typeName, pskType, certificateType]
  | certificate l => simp [typeName, DescribedBy]
  | generic name l extra =>
    simp only [typeName, DescribedBy, certificateType, reduceCtorEq, false_and, exists_false,
      iff_false]
    rintro ⟨rfl, hname, -⟩
    exact hname (by simp)

/-- Secrets that are described and have the name of no known type are kept as they are, with the
members that are left. -/
theorem describedBy_generic_iff (hname : name ∉ ["hashed-password", "psk", "x509-cert"]) :
    s.typeName = name ∧ s.DescribedBy ms ↔
      ∃ l, s = .generic name l (ms.filter fun m => m.1 ∉ reservedNames) ∧
        ms.Reads "secrets" (.list .members) [] l := by
  simp only [List.mem_cons, List.not_mem_nil, or_false, not_or] at hname
  cases s with
  | password l => simp [typeName, passwordType, Ne.symm hname.1]
  | psk l => simp [typeName, pskType, Ne.symm hname.2.1]
  | certificate l => simp [typeName, certificateType, Ne.symm hname.2.2]
  | generic other l extra =>
    simp only [typeName, DescribedBy, generic.injEq]
    constructor
    · rintro ⟨rfl, -, hsecrets, hextra⟩
      exact ⟨l, ⟨rfl, rfl, hextra⟩, hsecrets⟩
    · rintro ⟨l', ⟨rfl, rfl, hextra⟩, hsecrets⟩
      exact ⟨rfl, by simp [hname], hsecrets, hextra⟩

end Secrets

namespace Credential

/-- Passing over the type leaves what the other names say. A decoder has taken the type out of the
members before it reads the shared fields, and none of those has that name. -/
theorem describedBy_erase {i : CredentialInfo} :
    i.DescribedBy (ms.erase "type") ↔ i.DescribedBy ms := by
  have hget : ∀ k, k ≠ "type" → (ms.erase "type").get? k = ms.get? k := fun k hk => by
    rw [Members.get?_erase, if_neg hk]
  constructor
  · intro h
    exact ⟨(Members.Reads.congr (hget _ (by decide))).1 h.authId,
      (Members.Reads.congr (hget _ (by decide))).1 h.enabled,
      (Members.Reads.congr (hget _ (by decide))).1 h.comment,
      (Members.Reads.congr (hget _ (by decide))).1 h.ext⟩
  · intro h
    exact ⟨(Members.Reads.congr (hget _ (by decide))).2 h.authId,
      (Members.Reads.congr (hget _ (by decide))).2 h.enabled,
      (Members.Reads.congr (hget _ (by decide))).2 h.comment,
      (Members.Reads.congr (hget _ (by decide))).2 h.ext⟩

/-- The members that are left of an unknown type: those of no name with a meaning of its own. -/
theorem filter_erase {α : Type} {secret : Decoder α} :
    ((ms.erase "type").filter fun m => !(record secret).hasField m.1) =
      ms.filter fun m => m.1 ∉ Secrets.reservedNames := by
  rw [Members.erase, List.filter_filter]
  -- Both keep the members of no common name; the type was taken out before.
  refine List.filter_congr fun m _ => ?_
  rw [Bool.eq_iff_iff]
  simp only [Bool.and_eq_true, Bool.not_eq_true', ← Bool.not_eq_true, hasField_iff,
    decide_eq_true_eq, Secrets.reservedNames, List.mem_cons, not_or, ne_eq]
  constructor
  · rintro ⟨⟨h1, h2, h3, h4, h5, h6⟩, h7⟩
    exact ⟨h7, h2, h3, h4, h5, h1, h6⟩
  · rintro ⟨h7, h2, h3, h4, h5, h1, h6⟩
    exact ⟨⟨h1, h2, h3, h4, h5, h6⟩, h7⟩

/-- A type that the registry does not know decodes to the documents of its secrets and to the
members that are left. Nothing in them is checked. -/
theorem decodeGeneric_eq_ok_iff {name : String} {c : Credential} (hnodup : ms.names.Nodup) :
    (do let (info, l, extra) ← fieldsOf name .members (ms.erase "type")
        return (⟨info, .generic name l extra⟩ : Credential)) = .ok c ↔
      c.info.DescribedBy ms ∧
        ∃ l, c.secrets = .generic name l (ms.filter fun m => m.1 ∉ Secrets.reservedNames) ∧
          ms.Reads "secrets" (.list .members) [] l := by
  -- The other members are decoded without the type, which no field reads.
  have hsub : List.Sublist (ms.erase "type").names ms.names := List.filter_sublist.map _
  have hsecrets : ∀ l, (ms.erase "type").Reads "secrets" (.list .members) [] l ↔
      ms.Reads "secrets" (.list .members) [] l := fun l =>
    Members.Reads.congr (by rw [Members.get?_erase, if_neg (by decide)])
  rw [except_bind_eq_ok]
  constructor
  · rintro ⟨⟨info, l, others⟩, h, he⟩
    cases he
    obtain ⟨hinfo, hl, rfl⟩ := (fieldsOf_eq_ok_iff (hnodup.sublist hsub)).1 h
    refine ⟨describedBy_erase.1 hinfo, l, ?_, (hsecrets l).1 hl⟩
    rw [filter_erase]
  · obtain ⟨info, secrets⟩ := c
    rintro ⟨hinfo, l, rfl, hl⟩
    refine ⟨(info, l, _), (fieldsOf_eq_ok_iff (hnodup.sublist hsub)).2
      ⟨describedBy_erase.2 hinfo, (hsecrets l).2 hl, rfl⟩, ?_⟩
    rw [filter_erase]
    rfl

/-- An object decodes by its type to the credential that it describes. The four cases are the types
that the registry knows, and all others. -/
theorem decodeAs_eq_ok_iff {name : String} {c : Credential} (hnodup : ms.names.Nodup) :
    decodeAs name ms = .ok c ↔
      c.info.DescribedBy ms ∧ c.typeName = name ∧ c.secrets.DescribedBy ms := by
  unfold decodeAs typeName
  by_cases hpassword : name = Secrets.passwordType
  · rw [if_pos hpassword, decodeKind_eq_ok_iff hnodup, hpassword, Secrets.describedBy_password_iff]
  · rw [if_neg hpassword]
    by_cases hpsk : name = Secrets.pskType
    · rw [if_pos hpsk, decodeKind_eq_ok_iff hnodup, hpsk, Secrets.describedBy_psk_iff]
    · rw [if_neg hpsk]
      by_cases hcertificate : name = Secrets.certificateType
      · rw [if_pos hcertificate, decodeKind_eq_ok_iff hnodup, hcertificate,
          Secrets.describedBy_certificate_iff]
      · have hname : name ∉ ["hashed-password", "psk", "x509-cert"] := by
          simp only [List.mem_cons, List.not_mem_nil, or_false, not_or]
          exact ⟨hpassword, hpsk, hcertificate⟩
        rw [if_neg hcertificate, Secrets.describedBy_generic_iff hname]
        exact decodeGeneric_eq_ok_iff hnodup

/-- An object is decoded as the credential that it describes, when that credential is lawful.
Decoding is a row of checks, and this tells what all of them together ask for. -/
theorem decode_eq_ok_iff {c : Credential} (hnodup : ms.names.Nodup) :
    decode ms = .ok c ↔
      ms.get? "type" = some (.string c.typeName) ∧ IsTypeName c.typeName ∧
      (ms.get? "auth-id").isSome ∧ IsAuthId c.info.authId ∧
      c.info.DescribedBy ms ∧ c.secrets.DescribedBy ms ∧ c.secrets.AllLawful := by
  unfold decode
  constructor
  · intro h
    obtain ⟨name, hname, h⟩ := except_bind_eq_ok.1 h
    obtain ⟨authId, hauthId, h⟩ := except_bind_eq_ok.1 h
    obtain ⟨c', hc, h⟩ := except_bind_eq_ok.1 h
    obtain ⟨⟨⟩, hvalid, h⟩ := except_bind_eq_ok.1 h
    cases h
    obtain ⟨hinfo, rfl, hsecrets⟩ := (decodeAs_eq_ok_iff hnodup).1 hc
    rw [required_eq_ok_iff, typePattern_isMatch_iff] at hname
    rw [required_eq_ok_iff, authIdPattern_isMatch_iff] at hauthId
    -- The identifier that was checked is the one that was decoded.
    have hsame := (Members.Reads.of_some hauthId.1).1 hinfo.authId
    rw [Decoder.string_eq_ok] at hsame
    cases hsame
    refine ⟨hname.1, hname.2, ?_, hauthId.2, hinfo, hsecrets, validate_eq_ok_iff.1 hvalid⟩
    rw [hauthId.1]
    rfl
  · rintro ⟨htype, hname, hsome, hauthId, hinfo, hsecrets, hlawful⟩
    -- Conversely every check passes, in the order in which they are made.
    obtain ⟨v, hv⟩ := Option.isSome_iff_exists.1 hsome
    have hid := (Members.Reads.of_some hv).1 hinfo.authId
    rw [Decoder.string_eq_ok] at hid
    subst hid
    rw [required_eq_ok_iff.2 ⟨htype, typePattern_isMatch_iff.2 hname⟩, except_bind_ok,
      required_eq_ok_iff.2 ⟨hv, authIdPattern_isMatch_iff.2 hauthId⟩, except_bind_ok,
      (decodeAs_eq_ok_iff hnodup).2 ⟨hinfo, rfl, hsecrets⟩, except_bind_ok,
      validate_eq_ok_iff.2 hlawful]
    rfl

end Credential

end DeviceRegistry
