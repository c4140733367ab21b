import DeviceRegistry.Proofs.Credential.Decode

/-!
# `DeviceRegistry.Proofs.Credential.RoundTrip`: credentials are read back

Main statements:

* `describedBy_encode`: a credential is described by its own encoding, unless its other members
  take a name that has a meaning of its own.
* `encode_decode_iff`: a credential is read back from its encoding exactly when it is lawful.
  Whatever is decoded is lawful, and so is read back.
-/

set_option autoImplicit false

namespace DeviceRegistry

open DeviceRegistry.Json

variable {α : Type} {ms : Members}

/-! ### What can be stored -/

/-- The documents among the secrets are in normal form, and all instants can be read. -/
def Secrets.IsStorable : Secrets → Prop
  | password l => ∀ s ∈ l, s.info.IsStorable
  | psk l => ∀ s ∈ l, s.info.IsStorable
  | certificate l => ∀ s ∈ l, s.info.IsStorable
  | generic _ l extra => (∀ ms ∈ l, ms.IsNormal) ∧ extra.IsNormal

namespace Credential

/-- The documents in a credential are in normal form, and its instants can be read. -/
structure IsStorable (c : Credential) : Prop where
  ext : c.info.ext.IsNormal
  secrets : c.secrets.IsStorable

/-- What is read from a list is read from documents in normal form, since those are parts of a
document in normal form. -/
theorem exists_of_reads_list {d : Decoder α} {l : List α} {name : String} (hms : ms.IsNormal)
    (h : ms.Reads name (.list d) [] l) :
    ∀ a ∈ l, ∃ v : Value, v.IsNormal ∧ d.ofValue v = .ok a := by
  cases hv : ms.get? name with
  | none =>
    rw [(Members.Reads.of_none hv).1 h]
    intro a ha
    cases ha
  | some v =>
    obtain ⟨vs, rfl, hvs⟩ := Decoder.list_eq_ok ((Members.Reads.of_some hv).1 h)
    intro a ha
    obtain ⟨w, hw, hwa⟩ := Decoder.exists_of_itemsOf hvs a ha
    exact ⟨w, Value.isNormal_array.1 (hms.value hv) w hw, hwa⟩

/-- Every record that is read from a list is described by some members, namely those of the document
it was read from. -/
theorem exists_describe_of_reads {r : Record α} {Describe : Members → α → Prop}
    (hdescribes : r.Describes Describe) {l : List α} {name : String} (hms : ms.IsNormal)
    (h : ms.Reads name (.list r.decoder) [] l) : ∀ a ∈ l, ∃ ms', Describe ms' a := by
  intro a ha
  obtain ⟨v, hv, hdecode⟩ := exists_of_reads_list hms h a ha
  obtain ⟨ms', -, hdescribe⟩ := (hdescribes.decoder_eq_ok_iff hv).1 hdecode
  exact ⟨ms', hdescribe⟩

/-- The secrets that an object in normal form describes can be stored: their instants were read from
texts, and documents among them are parts of the object. -/
theorem secrets_isStorable {s : Secrets} (hms : ms.IsNormal) (h : s.DescribedBy ms) :
    s.IsStorable := by
  -- A typed secret stores what is readable by its fields; a generic one is stored as it was read.
  cases s with
  | password l =>
    intro s hs
    obtain ⟨ms', hdescribed⟩ := exists_describe_of_reads PasswordSecret.describes hms h s hs
    exact hdescribed.info.isStorable
  | psk l =>
    intro s hs
    obtain ⟨ms', hdescribed⟩ := exists_describe_of_reads PskSecret.describes hms h s hs
    exact hdescribed.info.isStorable
  | certificate l =>
    intro s hs
    obtain ⟨ms', hdescribed⟩ := exists_describe_of_reads CertificateSecret.describes hms h s hs
    exact hdescribed.info.isStorable
  | generic name l extra =>
    obtain ⟨-, hsecrets, rfl⟩ := h
    refine ⟨?_, hms.filter _⟩
    intro s hs
    obtain ⟨v, hv, hdecode⟩ := exists_of_reads_list hms hsecrets s hs
    rw [Decoder.members_eq_ok] at hdecode
    subst hdecode
    exact hv

/-- The extensions are a member of the object, or there are none. In both cases they are in normal
form when the object is, which being lawful asks for. -/
theorem ext_isNormal {i : CredentialInfo} (hms : ms.IsNormal) (h : i.DescribedBy ms) :
    i.ext.IsNormal := by
  cases hv : ms.get? "ext" with
  | none =>
    rw [(Members.Reads.of_none hv).1 h.ext]
    exact Members.isNormal_nil
  | some v =>
    have hext := (Members.Reads.of_some hv).1 h.ext
    rw [Decoder.members_eq_ok] at hext
    subst hext
    exact hms.value hv

/-- Nothing that is left over takes a name with a meaning of its own, as all members with such names
were taken out. -/
theorem isApart_of_describedBy {s : Secrets} (h : s.DescribedBy ms) : s.IsApart := by
  cases s with
  | generic name l extra =>
    obtain ⟨hname, -, rfl⟩ := h
    refine ⟨hname, fun k hk => ?_⟩
    rw [Members.get?_filter fun n => decide (n ∉ Secrets.reservedNames)]
    simp [hk]
  | _ => trivial

/-- What is decoded from an object in normal form is lawful and can be stored. This is why it is
read back from its encoding. -/
theorem isLawful_of_decode {c : Credential} (hms : ms.IsNormal) (h : decode ms = .ok c) :
    c.IsStorable ∧ c.IsLawful := by
  obtain ⟨-, hname, -, hauthId, hinfo, hsecrets, hlawful⟩ :=
    (decode_eq_ok_iff hms.sorted.nodup_names).1 h
  exact ⟨⟨ext_isNormal hms hinfo, secrets_isStorable hms hsecrets⟩,
    ⟨hname, hauthId, hlawful, isApart_of_describedBy hsecrets⟩⟩

/-! ### What is written -/

/-- The members that are written for the parts common to all types. -/
def commonMembers (c : Credential) : List (Option (String × Value)) :=
  [some ("type", .string c.typeName),
    some ("auth-id", .string c.info.authId),
    c.info.enabled.map fun b => ("enabled", .bool b),
    c.info.comment.map fun s => ("comment", .string s),
    if c.info.ext.isEmpty then none else some ("ext", .object c.info.ext),
    some ("secrets", .array c.secrets.documents)]

/-- The members of the encoding of a credential. -/
def encoded (c : Credential) : Members :=
  (Members.present (c.commonMembers ++ c.secrets.extra.map some)).normalForm

/-- A credential is encoded as an object, whose members are put in order. -/
theorem encode_eq_object (c : Credential) : c.encode = .object c.encoded := by
  rw [encode, encoded]
  exact Value.normalize_ofPresent _

/-- The encoding of a credential is in normal form, whatever its parts are. -/
theorem isNormal_encoded (c : Credential) : c.encoded.IsNormal := Members.isNormal_normalForm _

/-- The other members of a credential that can be stored are in normal form, since only unknown
types have any. -/
theorem IsStorable.extra {c : Credential} (h : c.IsStorable) : c.secrets.extra.IsNormal := by
  have hsecrets := h.secrets
  cases hs : c.secrets with
  | generic name l extra =>
    rw [hs] at hsecrets
    exact hsecrets.2
  | _ => exact Members.isNormal_nil

/-- A name stands for what the other members say of it, and else for its part of the credential. The
other members are written last, and so they count. -/
theorem get?_encoded {c : Credential} {k : String} (h : c.secrets.extra.IsNormal) :
    c.encoded.get? k = ((c.secrets.extra.get? k).or
      (Members.get? k (Members.present c.commonMembers.reverse))).map Value.normalize := by
  rw [encoded, Members.get?_normalForm_present, List.reverse_append, Members.present_append,
    Members.get?_append, ← List.map_reverse, Members.present_map_some,
    Members.get?_reverse h.sorted.nodup_names]

/-- Under a name with a meaning of its own stands that part of a credential whose other members take
no such name. -/
theorem get?_encoded_reserved {c : Credential} (h : c.IsStorable) (hapart : c.secrets.IsApart)
    {k : String} (hk : k ∈ Secrets.reservedNames) :
    c.encoded.get? k =
      (Members.get? k (Members.present c.commonMembers.reverse)).map Value.normalize := by
  have hnone : c.secrets.extra.get? k = none := by
    cases hs : c.secrets with
    | generic name l extra =>
      rw [hs] at hapart
      exact hapart.2 k hk
    | _ => rfl
  rw [get?_encoded h.extra, hnone, Option.none_or]

/-- The parts of a credential in its encoding, name by name. Secrets are always written, and
extensions only if there are any. -/
theorem get?_encoded_parts {c : Credential} (h : c.IsStorable) (hapart : c.secrets.IsApart) :
    c.encoded.get? "type" = some (.string c.typeName) ∧
    c.encoded.get? "auth-id" = some (.string c.info.authId) ∧
    c.encoded.get? "enabled" = c.info.enabled.map Value.bool ∧
    c.encoded.get? "comment" = c.info.comment.map Value.string ∧
    c.encoded.get? "ext" = (if c.info.ext = [] then none else some (.object c.info.ext)) ∧
    c.encoded.get? "secrets" = some (Value.array c.secrets.documents).normalize := by
  have hget := fun k => @get?_encoded_reserved c h hapart k
  simp [Secrets.reservedNames, commonMembers, Function.comp_def, Value.normalize] at hget
  obtain ⟨htype, hauthId, henabled, hcomment, hext, hsecrets⟩ := hget
  refine ⟨htype, hauthId, henabled, hcomment, ?_, ?_⟩
  · rw [hext]
    split
    · rfl
    · rw [Option.map_some, h.ext.normalize]
  · rw [hsecrets, Value.normalize]

/-- A name without a meaning of its own has the value that the other members give it. -/
theorem get?_encoded_other {c : Credential} (h : c.IsStorable) {k : String}
    (hk : k ∉ Secrets.reservedNames) : c.encoded.get? k = c.secrets.extra.get? k := by
  have hcommon : Members.get? k (Members.present c.commonMembers.reverse) = none := by
    simp only [Secrets.reservedNames, List.mem_cons, List.not_mem_nil, or_false, not_or] at hk
    obtain ⟨htype, hauthId, henabled, hcomment, hext, hsecrets⟩ := hk
    simp [commonMembers, Ne.symm htype, Ne.symm hauthId, Ne.symm henabled, Ne.symm hcomment,
      Ne.symm hext, Ne.symm hsecrets]
  rw [get?_encoded h.extra, hcommon, Option.or_none]
  cases hv : c.secrets.extra.get? k with
  | none => rfl
  | some v => rw [Option.map_some, Value.normalize_of_isNormal v (h.extra.value hv)]

/-- What is written as a list of documents is read back, when each document is. -/
theorem reads_documents {d : Decoder α} {document : α → Value} {l : List α} {name : String}
    (hget : ms.get? name = some (Value.array (l.map document)).normalize)
    (h : ∀ a ∈ l, d.ofValue (document a).normalize = .ok a) : ms.Reads name (.list d) [] l := by
  refine (Members.Reads.of_some hget).2 ?_
  rw [Value.normalize_array, List.map_map]
  exact Decoder.itemsOf_map h

/-- Records are read back from documents that describe them, which is how the secrets of all known
types are. -/
theorem reads_described {r : Record α} {Describe : Members → α → Prop}
    (hdescribes : r.Describes Describe) {document : α → Value} {l : List α} {name : String}
    (hget : ms.get? name = some (Value.array (l.map document)).normalize)
    (h : ∀ a ∈ l, ∃ ms', (document a).normalize = .object ms' ∧ Describe ms' a) :
    ms.Reads name (.list r.decoder) [] l := by
  refine reads_documents hget fun a ha => ?_
  exact (hdescribes.decoder_eq_ok_iff (Value.isNormal_normalize _)).2 (h a ha)

/-- The members that are left over of an encoding are the other members of the credential. No other
part of it is written under such a name. -/
theorem filter_encoded {c : Credential} (h : c.IsStorable) (hapart : c.secrets.IsApart) :
    c.encoded.filter (fun m => m.1 ∉ Secrets.reservedNames) = c.secrets.extra := by
  -- Both sides are maps, so it is enough to look every name up. A reserved name is in neither, and
  -- under any other name only the other members can have been written.
  refine Members.Sorted.ext ((isNormal_encoded c).filter _).sorted h.extra.sorted fun k => ?_
  rw [Members.get?_filter fun n => decide (n ∉ Secrets.reservedNames)]
  by_cases hk : k ∈ Secrets.reservedNames
  · rw [if_neg (by simpa using hk)]
    cases hs : c.secrets with
    | generic name l extra =>
      rw [hs] at hapart
      exact (hapart.2 k hk).symm
    | _ => rfl
  · rw [if_pos (by simpa using hk), get?_encoded_other h hk]

/-- The common parts of a credential are described by its encoding, if no other member shadows one
of them. -/
theorem info_describedBy_encoded {c : Credential} (h : c.IsStorable) (hapart : c.secrets.IsApart) :
    c.info.DescribedBy c.encoded := by
  obtain ⟨-, hauthId, henabled, hcomment, hext, -⟩ := get?_encoded_parts h hapart
  constructor
  · exact (Members.Reads.of_some hauthId).2 rfl
  · exact reads_optional henabled (fun _ _ => rfl) (by simp)
  · exact reads_optional hcomment (fun _ _ => rfl) (by simp)
  · by_cases he : c.info.ext = []
    · rw [if_pos he] at hext
      exact (Members.Reads.of_none hext).2 he
    · rw [if_neg he] at hext
      exact (Members.Reads.of_some hext).2 rfl

/-- The secrets of a credential are described by its encoding. The kinds that the registry knows
differ in their table only. -/
theorem secrets_describedBy_encoded {c : Credential} (h : c.IsStorable)
    (hapart : c.secrets.IsApart) : c.secrets.DescribedBy c.encoded := by
  obtain ⟨-, -, -, -, -, hget⟩ := get?_encoded_parts h hapart
  -- The three kinds that the registry knows differ in their table only.
  have hstorable := h.secrets
  have hleft := filter_encoded h hapart
  cases hs : c.secrets with
  | password l =>
    rw [hs] at hget hstorable
    exact reads_described PasswordSecret.describes hget fun s hmem =>
      PasswordSecret.exists_document (hstorable s hmem)
  | psk l =>
    rw [hs] at hget hstorable
    exact reads_described PskSecret.describes hget fun s hmem =>
      PskSecret.exists_document (hstorable s hmem)
  | certificate l =>
    rw [hs] at hget hstorable
    exact reads_described CertificateSecret.describes hget fun s hmem =>
      CertificateSecret.exists_document (hstorable s hmem)
  | generic name l extra =>
    rw [hs] at hget hstorable hapart hleft
    refine ⟨hapart.1, reads_documents hget fun s hmem => ?_, hleft.symm⟩
    rw [(hstorable.1 s hmem).normalize]
    rfl

/-- A lawful credential is decoded from its encoding, since the encoding describes it and its rules
have been checked. -/
theorem decode_encoded {c : Credential} (h : c.IsStorable) (hlawful : c.IsLawful) :
    decode c.encoded = .ok c := by
  obtain ⟨htype, hauthId, -⟩ := get?_encoded_parts h hlawful.apart
  refine (decode_eq_ok_iff (isNormal_encoded c).sorted.nodup_names).2
    ⟨htype, hlawful.typeName, ?_, hlawful.authId, info_describedBy_encoded h hlawful.apart,
      secrets_describedBy_encoded h hlawful.apart, hlawful.secrets⟩
  rw [hauthId]
  rfl

/-! ### The round trip -/

/-- A credential is written as an object in normal form, and it is read back from there exactly when
it is lawful. Whatever is decoded can be stored and is lawful, and so is read back. -/
theorem encode_decode_iff :
    (∀ c : Credential, c.IsStorable → ∃ ms, c.encode = .object ms ∧ Members.IsNormal ms ∧
      (decode ms = .ok c ↔ c.IsLawful)) ∧
    (∀ ms c, Members.IsNormal ms → decode ms = .ok c → c.IsStorable ∧ c.IsLawful ∧
      ∃ ms', c.encode = .object ms' ∧ decode ms' = .ok c) := by
  constructor
  · intro c h
    refine ⟨c.encoded, encode_eq_object c, isNormal_encoded c, ?_, decode_encoded h⟩
    intro hdecode
    exact (isLawful_of_decode (isNormal_encoded c) hdecode).2
  · intro ms c hms hdecode
    obtain ⟨hstorable, hlawful⟩ := isLawful_of_decode hms hdecode
    exact ⟨hstorable, hlawful, c.encoded, encode_eq_object c, decode_encoded hstorable hlawful⟩

/-- A password that is valid for half of the leap second at the end of 2016, and one that waits to
be hashed. -/
def leapSecondPassword : Credential where
  info :=
    { authId := "sensor=1", enabled := some false, comment := some "",
      ext := [("notes", .array [.object [("a", .null), ("b", .bool true)], .string "x"])] }
  secrets := .password
    [{ info :=
         { notBefore := some ⟨1483228799, 1000000000⟩, notAfter := some ⟨1483228799, 1500000000⟩ },
       hashFunction := some .bcrypt, hash := some "$2a$", salt := some "" },
     { plain := some "secret" }]

/-- A credential of a vendor whose other members repeat the comment. -/
def shadowedComment : Credential where
  info := { authId := "sensor-1", comment := some "ours" }
  secrets := .generic "vendor" [[("pin", .string "1234")]] [("comment", .string "theirs")]

/-- One credential comes back from its encoding, and the other does not. The first is valid within
one leap second, and the second has a member without a meaning that repeats the comment. -/
theorem encode_decode_leapSecondPassword :
    leapSecondPassword.IsStorable ∧ shadowedComment.IsStorable ∧
    (∃ ms, leapSecondPassword.encode = .object ms ∧ decode ms = .ok leapSecondPassword ∧
      ∃ ms', leapSecondPassword.encode = .object ms' ∧ decode ms' = .ok leapSecondPassword) ∧
    ∃ ms, shadowedComment.encode = .object ms ∧ decode ms ≠ .ok shadowedComment := by
  have hreadable : ∀ nanos, nanos < 2000000000 → Instant.IsReadable ⟨1483228799, nanos⟩ := by
    intro nanos h
    have hrange : Instant.inRange 1483228799 = true := by decide
    exact Instant.exists_parse_iff.2 ⟨hrange, .inr ⟨h, rfl⟩⟩
  have hpassword : leapSecondPassword.IsStorable := by
    constructor
    · have hobject : Value.IsNormal (.object [("a", .null), ("b", .bool true)]) :=
        ⟨List.pairwise_pair.2 (by decide), trivial, trivial, trivial⟩
      exact Members.isNormal_singleton ⟨hobject, trivial, trivial⟩
    · intro s hs
      simp only [List.mem_cons, List.not_mem_nil, or_false] at hs
      rcases hs with rfl | rfl
      · constructor
        · intro t ht
          cases ht
          exact hreadable _ (by decide)
        · intro t ht
          cases ht
          exact hreadable _ (by decide)
      · exact ⟨nofun, nofun⟩
  have hshadowed : shadowedComment.IsStorable := by
    constructor
    · exact Members.isNormal_nil
    · refine ⟨?_, Members.isNormal_singleton trivial⟩
      intro ms hms
      obtain rfl := List.mem_singleton.1 hms
      exact Members.isNormal_singleton trivial
  -- The window of the first secret starts and ends inside one leap second.
  have hlawful : leapSecondPassword.IsLawful := by
    refine ⟨typePattern_isMatch_iff.1 rfl, authIdPattern_isMatch_iff.1 rfl, ?_, trivial⟩
    intro s hs
    simp only [List.mem_cons, List.not_mem_nil, or_false] at hs
    rcases hs with rfl | rfl
    · refine ⟨?_, .inr rfl, by decide, by decide, by decide⟩
      intro b a hb ha
      cases hb
      cases ha
      exact .inr ⟨rfl, by decide⟩
    · exact ⟨nofun, .inl rfl, by decide, by decide, by decide⟩
  -- The vendor's member has the name of a shared one, which is read in its place.
  have hunlawful : ¬ shadowedComment.IsLawful := by
    intro h
    have hcomment := h.apart.2 "comment" (by decide)
    cases hcomment
  refine ⟨hpassword, hshadowed, ?_, ?_⟩
  · obtain ⟨ms, hencode, hms, hiff⟩ := encode_decode_iff.1 _ hpassword
    have hdecode := hiff.2 hlawful
    exact ⟨ms, hencode, hdecode, (encode_decode_iff.2 ms _ hms hdecode).2.2⟩
  · obtain ⟨ms, hencode, -, hiff⟩ := encode_decode_iff.1 _ hshadowed
    exact ⟨ms, hencode, fun hdecode => hunlawful (hiff.1 hdecode)⟩

end Credential

end DeviceRegistry
