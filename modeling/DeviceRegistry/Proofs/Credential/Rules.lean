import DeviceRegistry.Proofs.Credential.RoundTrip

/-!
# `DeviceRegistry.Proofs.Credential.Rules`: which objects are refused

An object represents a lawful credential when its members say what the credential holds. The rules
are then also told by the members alone: a member breaks a rule. Main statements:

* `decode_eq_ok_iff_represents`: an object is decoded as the credential that it represents.
* `BreaksRule.not_represents`: an object that breaks a rule represents no credential.
-/

set_option autoImplicit false

namespace DeviceRegistry

open DeviceRegistry.Json

variable {ms : Members}

/-! ### What an object represents -/

/-- The kind of secrets that a type asks for: each of three types has its own, and every other type
is kept as it is. -/
def Secrets.IsSelectedBy : Secrets → (typeName : String) → Prop
  | password _, typeName => typeName = "hashed-password"
  | psk _, typeName => typeName = "psk"
  | certificate _, typeName => typeName = "x509-cert"
  | generic name _ _, typeName =>
    typeName = name ∧ typeName ∉ ["hashed-password", "psk", "x509-cert"]

/-- What is described has a type that selects its kind: an unknown type is none of those that have a
kind of their own. -/
theorem Secrets.DescribedBy.isSelectedBy {s : Secrets} (h : s.DescribedBy ms) :
    s.IsSelectedBy s.typeName := by
  cases s with
  | password _ | psk _ | certificate _ => rfl
  | generic name l extra => exact ⟨rfl, h.1⟩

namespace Credential

variable {c : Credential}

/-- A credential that obeys all rules and is what the members of an object say. -/
structure Represents (c : Credential) (ms : Members) : Prop where
  typeName : ms.get? "type" = some (.string c.typeName) ∧ IsTypeName c.typeName
  authId : ms.get? "auth-id" = some (.string c.info.authId) ∧ IsAuthId c.info.authId
  kind : c.secrets.IsSelectedBy c.typeName
  info : c.info.DescribedBy ms
  secrets : c.secrets.DescribedBy ms
  lawful : c.secrets.AllLawful

/-- An object is decoded as the credential that it represents. This says what decoding does without
naming any of its checks in their order. -/
theorem decode_eq_ok_iff_represents (hms : ms.IsNormal) :
    decode ms = .ok c ↔ c.Represents ms := by
  rw [decode_eq_ok_iff hms.sorted.nodup_names]
  constructor
  · rintro ⟨htype, hname, hsome, hauthId, hinfo, hsecrets, hlawful⟩
    obtain ⟨v, hv⟩ := Option.isSome_iff_exists.1 hsome
    have hid := (Members.Reads.of_some hv).1 hinfo.authId
    rw [Decoder.string_eq_ok] at hid
    subst hid
    exact ⟨⟨htype, hname⟩, ⟨hv, hauthId⟩, hsecrets.isSelectedBy, hinfo, hsecrets, hlawful⟩
  · intro h
    have hsome : (ms.get? "auth-id").isSome := by
      rw [h.authId.1]
      rfl
    exact ⟨h.typeName.1, h.typeName.2, hsome, h.authId.2, h.info, h.secrets, h.lawful⟩

end Credential

/-! ### Rules of secrets -/

/-- Optional data that is missing or `null` is not there. A rule that asks for the data is broken in
both cases. -/
theorem Json.Members.Reads.eq_none {α : Type} {name : String} {d : Decoder α} {a : Option α}
    (h : ms.Reads name (.optional d) none a)
    (habsent : ms.get? name = none ∨ ms.get? name = some .null) : a = none := by
  rcases habsent with hnone | hnull
  · exact (Members.Reads.of_none hnone).1 h
  · exact h.unique ((Members.Reads.of_some hnull).2 rfl)

namespace SecretInfo

/-- The members of a secret have a window that does not start before it ends. -/
structure BreaksWindow (ms : Members) (before after : Instant) : Prop where
  notBefore : ∃ text, ms.get? "not-before" = some (.string text) ∧ Instant.parse text = .ok before
  notAfter : ∃ text, ms.get? "not-after" = some (.string text) ∧ Instant.parse text = .ok after
  order : ¬ before.Before after

/-- An instant that a text stands for is read from the member with this text. -/
theorem reads_instant {name : String} {t : Instant}
    (h : ∃ text, ms.get? name = some (.string text) ∧ Instant.parse text = .ok t) :
    ms.Reads name (.optional instantDecoder) none (some t) := by
  obtain ⟨text, hget, ht⟩ := h
  rw [Members.Reads.of_some hget, Decoder.optional_eq_some, instantDecoder_eq_ok]
  exact ⟨nofun, text, rfl, ht⟩

/-- A secret whose members have a window that does not start before it ends is not lawful. Its
bounds are those that the members say. -/
theorem DescribedBy.not_isLawful {i : SecretInfo} (h : i.DescribedBy ms) {before after : Instant}
    (hbreaks : BreaksWindow ms before after) : ¬ i.IsLawful := by
  have hbefore : i.notBefore = some before := h.notBefore.unique (reads_instant hbreaks.notBefore)
  have hafter : i.notAfter = some after := h.notAfter.unique (reads_instant hbreaks.notAfter)
  intro hlawful
  exact hbreaks.order (hlawful before after hbefore hafter)

end SecretInfo

/-- The members of a password break a rule. -/
inductive PasswordSecret.BreaksRule (ms : Members) : Prop
  | window {before after : Instant} (h : SecretInfo.BreaksWindow ms before after)
  /-- There is a hash together with a plain password. -/
  | hashAndPlain {hash plain : String} (hhash : ms.get? "pwd-hash" = some (.string hash))
    (hplain : ms.get? "pwd-plain" = some (.string plain))
  | hashWithoutFunction {hash : String} (hhash : ms.get? "pwd-hash" = some (.string hash))
    (hfunction : ms.get? "hash-function" = none ∨ ms.get? "hash-function" = some .null)
  | saltWithoutHash {salt : String} (hsalt : ms.get? "salt" = some (.string salt))
    (hhash : ms.get? "pwd-hash" = none ∨ ms.get? "pwd-hash" = some .null)
  | emptyPassword (hplain : ms.get? "pwd-plain" = some (.string ""))

/-- A password whose members break a rule is not lawful. In each case the members fix the fields
that the rule is about. -/
theorem PasswordSecret.DescribedBy.not_isLawful {s : PasswordSecret} (h : s.DescribedBy ms)
    (hbreaks : BreaksRule ms) : ¬ s.IsLawful := by
  intro hlawful
  -- What the members say is read into the fields, so each broken rule of the members is one of the
  -- fields.
  cases hbreaks with
  | window hwindow => exact h.info.not_isLawful hwindow hlawful.window
  | hashAndPlain hhash hplain =>
    have hs : s.hash = some _ := h.hash.unique ((Members.Reads.of_some hhash).2 rfl)
    have hp : s.plain = some _ := h.plain.unique ((Members.Reads.of_some hplain).2 rfl)
    rcases hlawful.hashOrPlain with hnone | hnone
    · rw [hs] at hnone
      cases hnone
    · rw [hp] at hnone
      cases hnone
  | hashWithoutFunction hhash hfunction =>
    have hs : s.hash = some _ := h.hash.unique ((Members.Reads.of_some hhash).2 rfl)
    refine hlawful.hashFunction ?_ (h.hashFunction.eq_none hfunction)
    rw [hs]
    exact Option.some_ne_none _
  | saltWithoutHash hsalt hhash =>
    have hs : s.salt = some _ := h.salt.unique ((Members.Reads.of_some hsalt).2 rfl)
    refine hlawful.salt ?_ (h.hash.eq_none hhash)
    rw [hs]
    exact Option.some_ne_none _
  | emptyPassword hplain =>
    exact hlawful.plain (h.plain.unique ((Members.Reads.of_some hplain).2 rfl))

/-- The members of a pre-shared key break a rule. -/
inductive PskSecret.BreaksRule (ms : Members) : Prop
  | window {before after : Instant} (h : SecretInfo.BreaksWindow ms before after)
  | noKey (hkey : ms.get? "key" = none ∨ ms.get? "key" = some (.string ""))
  /-- The key is no base64. -/
  | malformedKey {key : String} (hkey : ms.get? "key" = some (.string key))
    (hbytes : ∀ bytes, Base64.decode (Text.bytes key) ≠ .ok bytes)

/-- A pre-shared key whose members break a rule is not lawful. A missing key counts as an empty
one. -/
theorem PskSecret.DescribedBy.not_isLawful {s : PskSecret} (h : s.DescribedBy ms)
    (hbreaks : BreaksRule ms) : ¬ s.IsLawful := by
  intro hlawful
  cases hbreaks with
  | window hwindow => exact h.info.not_isLawful hwindow hlawful.window
  | noKey hkey =>
    rcases hkey with hnone | hempty
    · exact hlawful.present ((Members.Reads.of_none hnone).1 h.key)
    · exact hlawful.present (h.key.unique ((Members.Reads.of_some hempty).2 rfl))
  | malformedKey hkey hbytes =>
    have hs : s.key = _ := h.key.unique ((Members.Reads.of_some hkey).2 rfl)
    obtain ⟨bytes, hdecode⟩ := hlawful.base64
    rw [PskSecret.keyBytes, hs] at hdecode
    exact hbytes bytes hdecode

/-! ### Rules of credentials -/

namespace Credential

/-- An object is among the secrets of another one. -/
def HasSecret (ms secret : Members) : Prop :=
  ∃ secrets, ms.get? "secrets" = some (.array secrets) ∧ .object secret ∈ secrets

/-- The members of a credential break a rule: of its type, of its identifier, or of one of its
secrets. -/
inductive BreaksRule (ms : Members) : Prop
  | typeName (h : ∀ name, ms.get? "type" = some (.string name) → ¬ IsTypeName name)
  | authId (h : ∀ id, ms.get? "auth-id" = some (.string id) → ¬ IsAuthId id)
  | password {secret : Members} (htype : ms.get? "type" = some (.string "hashed-password"))
    (hsecret : HasSecret ms secret) (h : PasswordSecret.BreaksRule secret)
  | psk {secret : Members} (htype : ms.get? "type" = some (.string "psk"))
    (hsecret : HasSecret ms secret) (h : PskSecret.BreaksRule secret)
  | certificate {secret : Members} {before after : Instant}
    (htype : ms.get? "type" = some (.string "x509-cert")) (hsecret : HasSecret ms secret)
    (h : SecretInfo.BreaksWindow secret before after)

/-- A secret of an object is read as one of the secrets that the object describes. -/
theorem HasSecret.exists_describe {α : Type} {r : Record α} {Describe : Members → α → Prop}
    {l : List α} {secret : Members} (h : HasSecret ms secret) (hms : ms.IsNormal)
    (hdescribes : r.Describes Describe) (hreads : ms.Reads "secrets" (.list r.decoder) [] l) :
    ∃ s ∈ l, Describe secret s := by
  obtain ⟨secrets, hsecrets, hsecret⟩ := h
  have hitems : Decoder.itemsOf r.decoder secrets = .ok l :=
    (Members.Reads.of_some hsecrets).1 hreads
  have hnormal : (Value.object secret).IsNormal :=
    Value.isNormal_array.1 (hms.value hsecrets) _ hsecret
  obtain ⟨s, hs, hdecode⟩ := Decoder.exists_of_mem_items hitems _ hsecret
  obtain ⟨_, hobject, hdescribe⟩ := (hdescribes.decoder_eq_ok_iff hnormal).1 hdecode
  cases hobject
  exact ⟨s, hs, hdescribe⟩

/-- An object that breaks a rule represents no credential. The type tells the kind of its secrets,
and one of them is not lawful. -/
theorem BreaksRule.not_represents (hms : ms.IsNormal) (h : BreaksRule ms) (c : Credential) :
    ¬ c.Represents ms := by
  intro hc
  have hlawful := hc.lawful
  have htypeName : ∀ {name}, ms.get? "type" = some (.string name) → c.secrets.typeName = name := by
    intro name htype
    have hname := hc.typeName.1.symm.trans htype
    cases hname
    rfl
  cases h with
  | typeName h => exact h _ hc.typeName.1 hc.typeName.2
  | authId h => exact h _ hc.authId.1 hc.authId.2
  -- The type selects the kind of the secrets, and a secret of that kind is not lawful.
  | password htype hsecret h =>
    obtain ⟨l, hl, hreads⟩ :=
      Secrets.describedBy_password_iff.1 ⟨htypeName htype, hc.secrets⟩
    obtain ⟨s, hs, hdescribed⟩ := hsecret.exists_describe hms PasswordSecret.describes hreads
    rw [hl] at hlawful
    exact hdescribed.not_isLawful h (hlawful s hs)
  | psk htype hsecret h =>
    obtain ⟨l, hl, hreads⟩ := Secrets.describedBy_psk_iff.1 ⟨htypeName htype, hc.secrets⟩
    obtain ⟨s, hs, hdescribed⟩ := hsecret.exists_describe hms PskSecret.describes hreads
    rw [hl] at hlawful
    exact hdescribed.not_isLawful h (hlawful s hs)
  | certificate htype hsecret h =>
    obtain ⟨l, hl, hreads⟩ :=
      Secrets.describedBy_certificate_iff.1 ⟨htypeName htype, hc.secrets⟩
    obtain ⟨s, hs, hdescribed⟩ := hsecret.exists_describe hms CertificateSecret.describes hreads
    rw [hl] at hlawful
    exact hdescribed.info.not_isLawful h (hlawful s hs)

end Credential

end DeviceRegistry
