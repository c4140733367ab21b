import DeviceRegistry.Proofs.Credential.Lawful
import DeviceRegistry.Proofs.Json.Present
import DeviceRegistry.Proofs.Time.RoundTrip

/-!
# `DeviceRegistry.Proofs.Credential.Secret`: secrets in documents

A secret is described by the members of an object when each of its fields is what the member of
that name says. Main statements, for each kind of secret:

* `describes`: the table of the secret makes of members what they say.
* `exists_document`: the normal form of a secret's document describes the secret.
-/

set_option autoImplicit false

namespace DeviceRegistry

open DeviceRegistry.Json

variable {ms : Members} {v : Value}

/-- An instant that some text stands for. -/
def Instant.IsReadable (t : Instant) : Prop := ∃ text, Instant.parse text = .ok t

/-- Instants are read from texts that stand for one, and from nothing else: not from numbers, and
not from `null`, which is left to the field that is optional. -/
theorem instantDecoder_eq_ok {t : Instant} :
    instantDecoder.ofValue v = .ok t ↔ ∃ text, v = .string text ∧ Instant.parse text = .ok t := by
  unfold instantDecoder Decoder.refine
  constructor
  · intro h
    obtain ⟨text, htext, h⟩ := except_bind_eq_ok.1 h
    rw [Decoder.scalar_eq_ok, Decoder.asString?_eq_some] at htext
    exact ⟨text, htext, except_mapError_eq_ok.1 h⟩
  · rintro ⟨text, rfl, h⟩
    show Except.mapError _ (Instant.parse text) = .ok t
    exact except_mapError_eq_ok.2 h

/-- A readable instant is read back from the text that it is written as. Instants out of range,
which no text stands for, are not readable. -/
theorem instantDecoder_render {t : Instant} (h : t.IsReadable) :
    instantDecoder.ofValue (.string t.render) = .ok t :=
  instantDecoder_eq_ok.2 ⟨t.render, rfl, Instant.parse_render (Instant.exists_parse_iff.1 h)⟩

/-! ### What all secrets share -/

namespace SecretInfo

/-- The instants of a secret can be read. -/
structure IsStorable (i : SecretInfo) : Prop where
  notBefore : ∀ t, i.notBefore = some t → t.IsReadable
  notAfter : ∀ t, i.notAfter = some t → t.IsReadable

/-- The names of the shared fields. -/
def names : List String := ["id", "enabled", "not-before", "not-after", "comment"]

/-- Members say what the shared fields hold. -/
structure DescribedBy (i : SecretInfo) (ms : Members) : Prop where
  id : ms.Reads "id" (.optional .string) none i.id
  enabled : ms.Reads "enabled" (.optional .boolean) none i.enabled
  notBefore : ms.Reads "not-before" (.optional instantDecoder) none i.notBefore
  notAfter : ms.Reads "not-after" (.optional instantDecoder) none i.notAfter
  comment : ms.Reads "comment" (.optional .string) none i.comment

/-- Members say one thing about each of the shared fields. So a record is determined by what it is
described by, and reading is a function of the members. -/
theorem DescribedBy.unique {i j : SecretInfo} (hi : i.DescribedBy ms) (hj : j.DescribedBy ms) :
    i = j := by
  obtain ⟨iid, ienabled, ibefore, iafter, icomment⟩ := i
  obtain ⟨jid, jenabled, jbefore, jafter, jcomment⟩ := j
  obtain rfl : iid = jid := hi.id.unique hj.id
  obtain rfl : ienabled = jenabled := hi.enabled.unique hj.enabled
  obtain rfl : ibefore = jbefore := hi.notBefore.unique hj.notBefore
  obtain rfl : iafter = jafter := hi.notAfter.unique hj.notAfter
  obtain rfl : icomment = jcomment := hi.comment.unique hj.comment
  rfl

/-- Only the members of the shared fields matter. So the shared part can be read behind a member of
any other name. -/
theorem DescribedBy.congr {ms' : Members} {i : SecretInfo} (hi : i.DescribedBy ms)
    (h : ∀ name ∈ names, ms.get? name = ms'.get? name) : i.DescribedBy ms' where
  id := (Members.Reads.congr (h _ (by decide))).1 hi.id
  enabled := (Members.Reads.congr (h _ (by decide))).1 hi.enabled
  notBefore := (Members.Reads.congr (h _ (by decide))).1 hi.notBefore
  notAfter := (Members.Reads.congr (h _ (by decide))).1 hi.notAfter
  comment := (Members.Reads.congr (h _ (by decide))).1 hi.comment

/-- An instant that a member says can be read, namely from that member. -/
theorem isReadable_of_reads {name : String} {t : Instant}
    (h : ms.Reads name (.optional instantDecoder) none (some t)) : t.IsReadable := by
  cases hv : ms.get? name with
  | none => cases (Members.Reads.of_none hv).1 h
  | some v =>
    rw [Members.Reads.of_some hv, Decoder.optional_eq_some, instantDecoder_eq_ok] at h
    obtain ⟨-, text, -, htext⟩ := h
    exact ⟨text, htext⟩

/-- So the instants of a secret that members describe can be read, which makes it one that can be
stored. -/
theorem DescribedBy.isStorable {i : SecretInfo} (h : i.DescribedBy ms) : i.IsStorable where
  notBefore _ ht := isReadable_of_reads (ht ▸ h.notBefore)
  notAfter _ ht := isReadable_of_reads (ht ▸ h.notAfter)

/-- What is written for the shared fields describes them. Optional data is left out where there is
none, and a member that is missing says so. -/
theorem describedBy_of_written {i : SecretInfo} (h : i.IsStorable)
    (hget : ∀ k ∈ names, ms.get? k =
      ((Members.present i.members.reverse).get? k).map Value.normalize) :
    i.DescribedBy ms := by
  simp [names, members, Function.comp_def, Value.normalize] at hget
  obtain ⟨hid, henabled, hbefore, hafter, hcomment⟩ := hget
  constructor
  · exact reads_optional hid (fun _ _ => rfl) fun _ => by simp
  · exact reads_optional henabled (fun _ _ => rfl) fun _ => by simp
  · exact reads_optional hbefore (fun t ht => instantDecoder_render (h.notBefore t ht))
      fun _ => by simp
  · exact reads_optional hafter (fun t ht => instantDecoder_render (h.notAfter t ht))
      fun _ => by simp
  · exact reads_optional hcomment (fun _ _ => rfl) fun _ => by simp

/-! ### The table of shared fields -/

section

variable {σ α : Type} {update : (SecretInfo → SecretInfo) → σ → σ} {f : Json.Field σ}

/-- The shared fields have the shared names. No own field has one of those, which keeps the two
tables apart. -/
theorem name_mem_names (hf : f ∈ infoFields update) : f.name ∈ names := by
  simp only [infoFields, List.mem_cons, List.not_mem_nil, or_false] at hf
  rcases hf with rfl | rfl | rfl | rfl | rfl <;> simp [names, Json.Field.of]

/-- Each of the shared names is that of a shared field. -/
theorem isField_infoFields {k : String} (hk : k ∈ names) :
    isField (infoFields update) k = true := by
  rw [isField_iff]
  simp [names] at hk
  rcases hk with rfl | rfl | rfl | rfl | rfl <;> simp [infoFields, Json.Field.of]

/-- A record that shares these fields has a field for each of their names. -/
theorem hasField_of_shared {r : Record σ} {k : String} (hshared : r.shared = infoFields update)
    (hk : k ∈ names) : r.hasField k = true := by
  rw [Record.hasField, hshared, isField_infoFields hk, Bool.or_true]

/-- Each shared field is carried by the field of its name, in any record that has the shared part
among its own. -/
theorem infoFields_carries {get : σ → SecretInfo} (hget : ∀ g s, get (update g s) = g (get s))
    (hf : f ∈ infoFields update) :
    f.Carries "id" (.optional .string) (fun s => (get s).id) ∧
    f.Carries "enabled" (.optional .boolean) (fun s => (get s).enabled) ∧
    f.Carries "not-before" (.optional instantDecoder) (fun s => (get s).notBefore) ∧
    f.Carries "not-after" (.optional instantDecoder) (fun s => (get s).notAfter) ∧
    f.Carries "comment" (.optional .string) (fun s => (get s).comment) := by
  simp only [infoFields, List.mem_cons, List.not_mem_nil, or_false] at hf
  -- Five fields by five parts: a field fills the part of its own name and keeps the other four.
  rcases hf with rfl | rfl | rfl | rfl | rfl <;>
    refine ⟨?_, ?_, ?_, ?_, ?_⟩ <;>
    exact Json.Field.of_carries (by simp [hget]) (by simp [hget])

/-- The shared fields leave everything alone but the shared part. So the own fields of a record are
what its own members say. -/
theorem infoFields_leavesAlone {get : σ → α} (hget : ∀ g s, get (update g s) = get s)
    (hf : f ∈ infoFields update) : f.LeavesAlone get := by
  simp only [infoFields, List.mem_cons, List.not_mem_nil, or_false] at hf
  rcases hf with rfl | rfl | rfl | rfl | rfl <;>
    exact Json.Field.of_leavesAlone fun _ _ => hget _ _

/-- The shared fields can be read from members that describe them. -/
theorem infoFields_readable {i : SecretInfo} (h : i.DescribedBy ms) (hf : f ∈ infoFields update) :
    ∀ v, ms.get? f.name = some v → ∃ change, f.decoder.ofValue v = .ok change := by
  simp only [infoFields, List.mem_cons, List.not_mem_nil, or_false] at hf
  rcases hf with rfl | rfl | rfl | rfl | rfl
  · exact Json.Field.exists_of_reads h.id
  · exact Json.Field.exists_of_reads h.enabled
  · exact Json.Field.exists_of_reads h.notBefore
  · exact Json.Field.exists_of_reads h.notAfter
  · exact Json.Field.exists_of_reads h.comment

/-- A record that shares these fields holds in them what its members say. Its own fields must leave
the shared part alone and take other names. -/
theorem describedBy_of_ofMembers {r : Record σ} {get : σ → SecretInfo} {s : σ} {others : Members}
    (hshared : r.shared = infoFields update) (hblank : get r.blank = {})
    (hget : ∀ g s, get (update g s) = g (get s))
    (hown : ∀ f ∈ r.own, f.LeavesAlone get ∧ f.name ∉ names)
    (hnodup : ms.names.Nodup) (h : r.ofMembers ms = .ok (s, others)) :
    (get s).DescribedBy ms := by
  -- No field of its own takes the name of a shared one.
  have hne : ∀ f ∈ r.own, ∀ k ∈ names, f.name ≠ k := fun f hf k hk he =>
    (hown f hf).2 (he ▸ hk)
  have hfield : ∀ k ∈ names, r.hasField k = true := fun k hk => hasField_of_shared hshared hk
  have hcarries : ∀ f ∈ r.shared, _ := fun f hf => infoFields_carries hget (hshared ▸ hf)
  -- The own fields leave the whole of the shared part alone, so they carry each field of it.
  have hreads : ∀ {β : Type} {k : String} {d : Decoder β} (part : SecretInfo → β), k ∈ names →
      (∀ f ∈ r.shared, f.Carries k d fun s => part (get s)) →
      ms.Reads k d (part {}) (part (get s)) := by
    intro β k d part hk hpart
    have hread := Record.ofMembers_reads h hnodup (hfield k hk)
      (fun f hf => (hown f hf).1.carries (hne f hf k hk) part) hpart
    rw [hblank] at hread
    exact hread
  constructor
  · exact hreads (·.id) (by decide) fun f hf => (hcarries f hf).1
  · exact hreads (·.enabled) (by decide) fun f hf => (hcarries f hf).2.1
  · exact hreads (·.notBefore) (by decide) fun f hf => (hcarries f hf).2.2.1
  · exact hreads (·.notAfter) (by decide) fun f hf => (hcarries f hf).2.2.2.1
  · exact hreads (·.comment) (by decide) fun f hf => (hcarries f hf).2.2.2.2

/-- A record that shares these fields holds in a field of its own what its members say. Each kind of
secret uses it for each field that it does not share. -/
theorem reads_of_ofMembers {r : Record σ} {get : σ → α} {s : σ} {others : Members}
    {name : String} {d : Decoder α} (hshared : r.shared = infoFields update)
    (hget : ∀ g s, get (update g s) = get s) (hname : name ∉ names)
    (hfield : isField r.own name = true) (hown : ∀ f ∈ r.own, f.Carries name d get)
    (hnodup : ms.names.Nodup) (h : r.ofMembers ms = .ok (s, others)) :
    ms.Reads name d (get r.blank) (get s) := by
  refine Record.ofMembers_reads h hnodup ?_ hown ?_
  · rw [Record.hasField, hfield, Bool.true_or]
  · intro f hf
    rw [hshared] at hf
    have hne : f.name ≠ name := fun he => hname (he ▸ name_mem_names hf)
    exact (infoFields_leavesAlone hget hf).carries hne fun a => a

end

end SecretInfo

/-! ### Passwords -/

/-- The name of a function is read as the function. Two functions have different names, so each is
found by its own. -/
theorem HashFunction.decoder_name (f : HashFunction) :
    HashFunction.decoder.ofValue (.string f.name) = .ok f := by
  cases f <;> rfl

namespace PasswordSecret

/-- Members say what the fields of a secret hold. -/
structure DescribedBy (s : PasswordSecret) (ms : Members) : Prop where
  info : s.info.DescribedBy ms
  hashFunction : ms.Reads "hash-function" (.optional HashFunction.decoder) none s.hashFunction
  hash : ms.Reads "pwd-hash" (.optional .string) none s.hash
  salt : ms.Reads "salt" (.optional .string) none s.salt
  plain : ms.Reads "pwd-plain" (.optional .string) none s.plain

/-- A password shares the fields of all secrets, which are updated in its first part. -/
theorem record_shared : record.shared = infoFields fun g s => { s with info := g s.info } := rfl

/-- Each own field of a password is carried by the field of its name. With the shared fields this is
what the general lemma on tables of fields asks for. -/
theorem own_carries {f : Json.Field PasswordSecret} (hf : f ∈ record.own) :
    f.Carries "hash-function" (.optional HashFunction.decoder) hashFunction ∧
    f.Carries "pwd-hash" (.optional .string) hash ∧
    f.Carries "salt" (.optional .string) salt ∧
    f.Carries "pwd-plain" (.optional .string) plain := by
  simp only [record, List.mem_cons, List.not_mem_nil, or_false] at hf
  -- As with the shared fields, each field fills one part and keeps the others.
  rcases hf with rfl | rfl | rfl | rfl <;>
    refine ⟨?_, ?_, ?_, ?_⟩ <;>
    exact Json.Field.of_carries (by simp) (by simp)

/-- Only the members of the fields matter for a password; all others are passed over. -/
theorem DescribedBy.congr {ms' : Members} {s : PasswordSecret}
    (h : ∀ name, record.hasField name = true → ms.get? name = ms'.get? name)
    (hs : s.DescribedBy ms) : s.DescribedBy ms' where
  info := hs.info.congr fun name hname => h name (SecretInfo.hasField_of_shared record_shared hname)
  hashFunction := (Members.Reads.congr (h _ (by decide))).1 hs.hashFunction
  hash := (Members.Reads.congr (h _ (by decide))).1 hs.hash
  salt := (Members.Reads.congr (h _ (by decide))).1 hs.salt
  plain := (Members.Reads.congr (h _ (by decide))).1 hs.plain

/-- The own fields of a password leave the shared part alone, and take no shared name. -/
theorem own_leavesAlone {f : Json.Field PasswordSecret} (hf : f ∈ record.own) :
    f.LeavesAlone info ∧ f.name ∉ SecretInfo.names := by
  simp only [record, List.mem_cons, List.not_mem_nil, or_false] at hf
  rcases hf with rfl | rfl | rfl | rfl <;>
    exact ⟨Json.Field.of_leavesAlone fun _ _ => rfl, by simp [SecretInfo.names, Json.Field.of]⟩

/-- What the table of a secret makes of members: it holds what they say, only one secret does, and
members that describe one can be read. -/
theorem describes : record.Describes fun ms s => s.DescribedBy ms where
  sound ms s others hnodup h := by
    -- The shared fields leave the own ones alone and the other way round, so each is read as if it
    -- were the only one.
    constructor
    · exact SecretInfo.describedBy_of_ofMembers record_shared rfl (fun _ _ => rfl)
        (fun f hf => own_leavesAlone hf) hnodup h
    · exact SecretInfo.reads_of_ofMembers record_shared (fun _ _ => rfl) (by decide) (by decide)
        (fun f hf => (own_carries hf).1) hnodup h
    · exact SecretInfo.reads_of_ofMembers record_shared (fun _ _ => rfl) (by decide) (by decide)
        (fun f hf => (own_carries hf).2.1) hnodup h
    · exact SecretInfo.reads_of_ofMembers record_shared (fun _ _ => rfl) (by decide) (by decide)
        (fun f hf => (own_carries hf).2.2.1) hnodup h
    · exact SecretInfo.reads_of_ofMembers record_shared (fun _ _ => rfl) (by decide) (by decide)
        (fun f hf => (own_carries hf).2.2.2) hnodup h
  unique ms s t hs ht := by
    obtain ⟨sinfo, sfunction, shash, ssalt, splain⟩ := s
    obtain ⟨tinfo, tfunction, thash, tsalt, tplain⟩ := t
    obtain rfl : sinfo = tinfo := hs.info.unique ht.info
    obtain rfl : sfunction = tfunction := hs.hashFunction.unique ht.hashFunction
    obtain rfl : shash = thash := hs.hash.unique ht.hash
    obtain rfl : ssalt = tsalt := hs.salt.unique ht.salt
    obtain rfl : splain = tplain := hs.plain.unique ht.plain
    rfl
  own ms s hs f hf := by
    simp only [record, List.mem_cons, List.not_mem_nil, or_false] at hf
    rcases hf with rfl | rfl | rfl | rfl
    · exact Json.Field.exists_of_reads hs.hashFunction
    · exact Json.Field.exists_of_reads hs.hash
    · exact Json.Field.exists_of_reads hs.salt
    · exact Json.Field.exists_of_reads hs.plain
  shared ms s hs f hf := SecretInfo.infoFields_readable hs.info (record_shared ▸ hf)

/-- The normal form of a secret's document describes the secret, if its instants can be read. All of
its fields are optional, so they are written only where there is something. -/
theorem exists_document {s : PasswordSecret} (h : s.info.IsStorable) :
    ∃ ms, s.document.normalize = .object ms ∧ s.DescribedBy ms := by
  refine ⟨_, Value.normalize_ofPresent _, ?_⟩
  constructor
  · refine SecretInfo.describedBy_of_written h ?_
    simp [Members.get?_normalForm_present, SecretInfo.names, SecretInfo.members]
  · refine reads_optional (f := fun g => .string g.name) ?_ (fun g _ => g.decoder_name) (by simp)
    simp [Members.get?_normalForm_present, SecretInfo.members, Function.comp_def, Value.normalize]
  -- The other fields are texts, all written and read in the same way.
  all_goals
    refine reads_optional (f := Value.string) ?_ (fun _ _ => rfl) (by simp)
    simp [Members.get?_normalForm_present, SecretInfo.members, Function.comp_def, Value.normalize]

end PasswordSecret

/-! ### Pre-shared keys -/

namespace PskSecret

/-- Members say what the fields of a secret hold. -/
structure DescribedBy (s : PskSecret) (ms : Members) : Prop where
  info : s.info.DescribedBy ms
  key : ms.Reads "key" .string "" s.key

/-- A pre-shared key shares the fields of all secrets, which are updated in its first part. -/
theorem record_shared : record.shared = infoFields fun g s => { s with info := g s.info } := rfl

/-- Only the members of the fields matter for a pre-shared key. -/
theorem DescribedBy.congr {ms' : Members} {s : PskSecret}
    (h : ∀ name, record.hasField name = true → ms.get? name = ms'.get? name)
    (hs : s.DescribedBy ms) : s.DescribedBy ms' where
  info := hs.info.congr fun name hname => h name (SecretInfo.hasField_of_shared record_shared hname)
  key := (Members.Reads.congr (h _ (by decide))).1 hs.key

/-- The only own field of a pre-shared key carries the key, leaves the shared part alone and takes
no shared name. -/
theorem own_carries {f : Json.Field PskSecret} (hf : f ∈ record.own) :
    f.Carries "key" .string key ∧ f.LeavesAlone info ∧ f.name ∉ SecretInfo.names := by
  simp only [record, List.mem_cons, List.not_mem_nil, or_false] at hf
  subst hf
  exact ⟨Json.Field.of_carries (by simp) (by simp), Json.Field.of_leavesAlone fun _ _ => rfl,
    by simp [SecretInfo.names, Json.Field.of]⟩

/-- What the table of a pre-shared key makes of members, as with passwords: it is read exactly when
the members describe it, whatever other members there are. -/
theorem describes : record.Describes fun ms s => s.DescribedBy ms where
  sound ms s others hnodup h := by
    constructor
    · exact SecretInfo.describedBy_of_ofMembers record_shared rfl (fun _ _ => rfl)
        (fun f hf => (own_carries hf).2) hnodup h
    · exact SecretInfo.reads_of_ofMembers record_shared (fun _ _ => rfl) (by decide) (by decide)
        (fun f hf => (own_carries hf).1) hnodup h
  unique ms s t hs ht := by
    obtain ⟨sinfo, skey⟩ := s
    obtain ⟨tinfo, tkey⟩ := t
    obtain rfl : sinfo = tinfo := hs.info.unique ht.info
    obtain rfl : skey = tkey := hs.key.unique ht.key
    rfl
  own ms s hs f hf := by
    simp only [record, List.mem_cons, List.not_mem_nil, or_false] at hf
    subst hf
    exact Json.Field.exists_of_reads hs.key
  shared ms s hs f hf := SecretInfo.infoFields_readable hs.info (record_shared ▸ hf)

/-- The normal form of a secret's document describes the secret. The key is always written, also
when it is empty. -/
theorem exists_document {s : PskSecret} (h : s.info.IsStorable) :
    ∃ ms, s.document.normalize = .object ms ∧ s.DescribedBy ms := by
  refine ⟨_, Value.normalize_ofPresent _, ?_⟩
  constructor
  · refine SecretInfo.describedBy_of_written h ?_
    simp [Members.get?_normalForm_present, SecretInfo.names, SecretInfo.members]
  · have hkey : Members.get? "key" (Members.present
        (s.info.members ++ [some ("key", .string s.key)])).normalForm = some (.string s.key) := by
      simp [Members.get?_normalForm_present, Value.normalize]
    exact (Members.Reads.of_some hkey).2 rfl

end PskSecret

/-! ### Client certificates -/

namespace CertificateSecret

/-- Members say what the fields of a secret hold. -/
structure DescribedBy (s : CertificateSecret) (ms : Members) : Prop where
  info : s.info.DescribedBy ms

/-- A certificate shares the fields of all secrets, which are updated in its first part. -/
theorem record_shared : record.shared = infoFields fun g s => { s with info := g s.info } := rfl

/-- Only the members of the fields matter for a certificate. The rest of an object may say anything.
-/
theorem DescribedBy.congr {ms' : Members} {s : CertificateSecret}
    (h : ∀ name, record.hasField name = true → ms.get? name = ms'.get? name)
    (hs : s.DescribedBy ms) : s.DescribedBy ms' where
  info := hs.info.congr fun name hname => h name (SecretInfo.hasField_of_shared record_shared hname)

/-- What the table of a certificate makes of members, as with passwords. There are only the shared
fields. -/
theorem describes : record.Describes fun ms s => s.DescribedBy ms where
  sound ms s others hnodup h :=
    ⟨SecretInfo.describedBy_of_ofMembers record_shared rfl (fun _ _ => rfl)
      (fun f hf => by cases hf) hnodup h⟩
  unique ms s t hs ht := by
    obtain ⟨sinfo⟩ := s
    obtain ⟨tinfo⟩ := t
    obtain rfl : sinfo = tinfo := hs.info.unique ht.info
    rfl
  own ms s hs f hf := by cases hf
  shared ms s hs f hf := SecretInfo.infoFields_readable hs.info (record_shared ▸ hf)

/-- The normal form of a secret's document describes the secret, which has nothing but the shared
fields. -/
theorem exists_document {s : CertificateSecret} (h : s.info.IsStorable) :
    ∃ ms, s.document.normalize = .object ms ∧ s.DescribedBy ms := by
  refine ⟨_, Value.normalize_ofPresent _, ?_⟩
  constructor
  refine SecretInfo.describedBy_of_written h ?_
  simp [Members.get?_normalForm_present]

end CertificateSecret

end DeviceRegistry
