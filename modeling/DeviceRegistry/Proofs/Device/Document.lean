import DeviceRegistry.Proofs.Device.Consistent
import DeviceRegistry.Proofs.Json.PlainRecord

/-!
# `DeviceRegistry.Proofs.Device.Document`: documents of devices

`Device.IsDocument` says which members are a device, `Device.DescribedBy` which device they are.
Members that are no fields count for neither. Main statements:

* `describes`: the table of a device makes of members what they say.
* `exists_describedBy_iff`: members are a device exactly when they are a document of one.
* `decoder_ofValue_eq_ok_iff`, `decoder_ofBytes_eq_ok_iff`: devices are decoded from the members
  that documents and texts give them.
-/

set_option autoImplicit false

namespace DeviceRegistry

open DeviceRegistry.Json

variable {ms : Members} {v : Value}

/-! ### Drafts -/

namespace DeviceDraft

variable {d : DeviceDraft}

/-- Members say what the fields of a draft hold. -/
structure DescribedBy (d : DeviceDraft) (ms : Members) : Prop where
  enabled : ms.Reads "enabled" (.optional .boolean) none d.enabled
  extensions : ms.Reads "ext" .members [] d.extensions
  defaults : ms.Reads "defaults" .members [] d.defaults
  via : ms.Reads "via" (.list .string) [] d.via
  viaGroups : ms.Reads "viaGroups" (.list .string) [] d.viaGroups
  memberOf : ms.Reads "memberOf" (.list .string) [] d.memberOf
  mapper : ms.Reads "mapper" (.optional .string) none d.mapper
  authorities : ms.Reads "authorities" (.list .string) [] d.authorities

/-- The fields of a draft, each with what it carries: taking a member changes the part of its own
name and no other, which is what reading a record member by member relies on. -/
theorem fields_carries {f : Json.Field DeviceDraft} (hf : f ∈ record.fields) :
    f.Carries "enabled" (.optional .boolean) enabled ∧
    f.Carries "ext" .members extensions ∧
    f.Carries "defaults" .members defaults ∧
    f.Carries "via" (.list .string) via ∧
    f.Carries "viaGroups" (.list .string) viaGroups ∧
    f.Carries "memberOf" (.list .string) memberOf ∧
    f.Carries "mapper" (.optional .string) mapper ∧
    f.Carries "authorities" (.list .string) authorities := by
  simp only [record, List.mem_cons, List.not_mem_nil, or_false] at hf
  -- Eight fields by eight parts: a field fills the part of its own name and keeps the others.
  rcases hf with rfl | rfl | rfl | rfl | rfl | rfl | rfl | rfl <;>
    refine ⟨?_, ?_, ?_, ?_, ?_, ?_, ?_, ?_⟩ <;>
    exact Json.Field.of_carries (by simp) (by simp)

/-- Every field of a device makes of a text what it makes of the document that is read from it. So a
device may be decoded as its text is read. -/
theorem fields_stream {f : Json.Field DeviceDraft} (hf : f ∈ record.fields) :
    f.decoder.Streams := by
  have hnames := Decoder.streams_string.list
  simp only [record, List.mem_cons, List.not_mem_nil, or_false] at hf
  rcases hf with rfl | rfl | rfl | rfl | rfl | rfl | rfl | rfl
  · exact Decoder.streams_boolean.optional.map _
  · exact Decoder.streams_members.map _
  · exact Decoder.streams_members.map _
  · exact hnames.map _
  · exact hnames.map _
  · exact hnames.map _
  · exact Decoder.streams_string.optional.map _
  · exact hnames.map _

/-- No two fields of a device share a name, so each member belongs to one field at most. -/
theorem names_nodup : record.names.Nodup := by decide

/-- Members say one thing about each field of a draft, so a draft is determined by the members that
describe it. -/
theorem DescribedBy.unique {e : DeviceDraft} (hd : d.DescribedBy ms) (he : e.DescribedBy ms) :
    d = e := by
  obtain ⟨denabled, dextensions, ddefaults, dvia, dgroups, dmember, dmapper, dauthorities⟩ := d
  obtain ⟨eenabled, eextensions, edefaults, evia, egroups, emember, emapper, eauthorities⟩ := e
  obtain rfl : denabled = eenabled := hd.enabled.unique he.enabled
  obtain rfl : dextensions = eextensions := hd.extensions.unique he.extensions
  obtain rfl : ddefaults = edefaults := hd.defaults.unique he.defaults
  obtain rfl : dvia = evia := hd.via.unique he.via
  obtain rfl : dgroups = egroups := hd.viaGroups.unique he.viaGroups
  obtain rfl : dmember = emember := hd.memberOf.unique he.memberOf
  obtain rfl : dmapper = emapper := hd.mapper.unique he.mapper
  obtain rfl : dauthorities = eauthorities := hd.authorities.unique he.authorities
  rfl

/-- Only the members of the fields matter for a draft. So members that are unknown may be added or
left out, as happens where only some of them are kept. -/
theorem DescribedBy.congr {ms' : Members} (hd : d.DescribedBy ms)
    (h : ∀ name ∈ record.names, ms.get? name = ms'.get? name) : d.DescribedBy ms' where
  enabled := (Members.Reads.congr (h _ (by decide))).1 hd.enabled
  extensions := (Members.Reads.congr (h _ (by decide))).1 hd.extensions
  defaults := (Members.Reads.congr (h _ (by decide))).1 hd.defaults
  via := (Members.Reads.congr (h _ (by decide))).1 hd.via
  viaGroups := (Members.Reads.congr (h _ (by decide))).1 hd.viaGroups
  memberOf := (Members.Reads.congr (h _ (by decide))).1 hd.memberOf
  mapper := (Members.Reads.congr (h _ (by decide))).1 hd.mapper
  authorities := (Members.Reads.congr (h _ (by decide))).1 hd.authorities

/-- What the table of a device makes of members: it holds what they say, only one draft does, and
members that describe one can be read. -/
theorem describes : record.asRecord.Describes fun ms d => d.DescribedBy ms where
  sound ms d others hnodup h := by
    have hreads : ∀ {β : Type} {name : String} {e : Decoder β} (get : DeviceDraft → β),
        name ∈ record.names → (∀ f ∈ record.fields, f.Carries name e get) →
        ms.Reads name e (get {}) (get d) := by
      intro β name e get hname hcarries
      have hfield : record.asRecord.hasField name = true := by
        rw [Record.hasField, Bool.or_eq_true]
        exact .inl (PlainRecord.isField_iff_mem_names.2 hname)
      exact Record.ofMembers_reads h hnodup hfield hcarries fun f hf => nomatch hf
    -- Each of the eight fields carries its own name and leaves the others alone.
    constructor
    · exact hreads enabled (by decide) fun f hf => (fields_carries hf).1
    · exact hreads extensions (by decide) fun f hf => (fields_carries hf).2.1
    · exact hreads defaults (by decide) fun f hf => (fields_carries hf).2.2.1
    · exact hreads via (by decide) fun f hf => (fields_carries hf).2.2.2.1
    · exact hreads viaGroups (by decide) fun f hf => (fields_carries hf).2.2.2.2.1
    · exact hreads memberOf (by decide) fun f hf => (fields_carries hf).2.2.2.2.2.1
    · exact hreads mapper (by decide) fun f hf => (fields_carries hf).2.2.2.2.2.2.1
    · exact hreads authorities (by decide) fun f hf => (fields_carries hf).2.2.2.2.2.2.2
  unique ms d e hd he := hd.unique he
  own ms d hd f hf := by
    simp only [PlainRecord.asRecord, record, List.mem_cons, List.not_mem_nil, or_false] at hf
    rcases hf with rfl | rfl | rfl | rfl | rfl | rfl | rfl | rfl
    · exact Json.Field.exists_of_reads hd.enabled
    · exact Json.Field.exists_of_reads hd.extensions
    · exact Json.Field.exists_of_reads hd.defaults
    · exact Json.Field.exists_of_reads hd.via
    · exact Json.Field.exists_of_reads hd.viaGroups
    · exact Json.Field.exists_of_reads hd.memberOf
    · exact Json.Field.exists_of_reads hd.mapper
    · exact Json.Field.exists_of_reads hd.authorities
  shared ms d hd f hf := nomatch hf

end DeviceDraft

/-! ### Devices -/

namespace Device

variable {d : Device} {names : List String}

/-- How names stand in a document. -/
def listed (names : List String) : Value := .array (names.map .string)

/-- Members say what a device holds: what may be `null` is not set by it, and the names of a set may
stand in any order and more than once. -/
structure DescribedBy (d : Device) (ms : Members) : Prop where
  enabled : ms.Has "enabled" (Decoder.nullable .bool) none d.enabled
  extensions : ms.Has "ext" .object [] d.extensions
  defaults : ms.Has "defaults" .object [] d.defaults
  via : ms.Has "via" listed [] d.via
  viaGroups : ms.Has "viaGroups" listed [] d.viaGroups
  memberOf : ∃ names, ms.Has "memberOf" listed [] names ∧ IsSetOf d.memberOf names
  mapper : ms.Has "mapper" (Decoder.nullable .string) none d.mapper
  authorities : ∃ names, ms.Has "authorities" listed [] names ∧ IsSetOf d.authorities names
  consistent : d.Consistent

/-- Members are a device: fields that are there are of the right kind, and the device is not both a
member of groups and behind gateways. -/
structure IsDocument (ms : Members) : Prop where
  enabled : ∀ v, ms.get? "enabled" = some v → v = .null ∨ ∃ b, v = .bool b
  extensions : ∀ v, ms.get? "ext" = some v → ∃ inner, v = .object inner
  defaults : ∀ v, ms.get? "defaults" = some v → ∃ inner, v = .object inner
  via : ∀ v, ms.get? "via" = some v → ∃ names, v = listed names
  viaGroups : ∀ v, ms.get? "viaGroups" = some v → ∃ names, v = listed names
  memberOf : ∀ v, ms.get? "memberOf" = some v → ∃ names, v = listed names
  mapper : ∀ v, ms.get? "mapper" = some v → v = .null ∨ ∃ name, v = .string name
  authorities : ∀ v, ms.get? "authorities" = some v → ∃ names, v = listed names
  exclusive : ∀ group groups, ms.get? "memberOf" = some (listed (group :: groups)) →
    ∀ name names, ms.get? "via" ≠ some (listed (name :: names)) ∧
      ms.get? "viaGroups" ≠ some (listed (name :: names))

section

variable {name : String}

/-- A flag is there as a truth value, as `null`, or not at all. -/
theorem reads_flag_iff {o : Option Bool} : ms.Reads name (.optional .boolean) none o ↔
    ms.Has name (Decoder.nullable .bool) none o :=
  Members.reads_iff_has fun _ _ =>
    Decoder.optional_eq_ok_iff (fun _ _ => Decoder.boolean_eq_ok) (by simp)

/-- A text is there as a string, as `null`, or not at all. -/
theorem reads_text_iff {o : Option String} : ms.Reads name (.optional .string) none o ↔
    ms.Has name (Decoder.nullable .string) none o :=
  Members.reads_iff_has fun _ _ =>
    Decoder.optional_eq_ok_iff (fun _ _ => Decoder.string_eq_ok) (by simp)

/-- Opaque members are there as an object, or not at all. -/
theorem reads_members_iff {inner : Members} :
    ms.Reads name .members [] inner ↔ ms.Has name .object [] inner :=
  Members.reads_iff_has fun _ _ => Decoder.members_eq_ok

/-- Names are there as an array of strings, or not at all. -/
theorem reads_names_iff : ms.Reads name (.list .string) [] names ↔ ms.Has name listed [] names :=
  Members.reads_iff_has fun _ _ => Decoder.list_eq_ok_iff fun _ _ => Decoder.string_eq_ok

end

/-- Different lists of names stand in documents as different arrays, since a name is a text and
stands for itself. -/
theorem listed_injective {m n : List String} (h : listed m = listed n) : m = n := by
  rw [listed, listed, Value.array.injEq] at h
  exact (List.map_inj_right fun _ _ => Value.string.inj).1 h

/-- Drafts and devices are described alike, but for sets, whose names a device has in order and
without repetition. So a device can be described by members without a draft between them. -/
theorem exists_draft_iff :
    (∃ draft : DeviceDraft, draft.DescribedBy ms ∧ draft.toDevice = .ok d) ↔ d.DescribedBy ms := by
  -- A draft has lists where the device has sets, and nothing else is changed between them.
  constructor
  · rintro ⟨draft, h, hd⟩
    obtain ⟨hconsistent, rfl⟩ := toDevice_eq_ok_iff.1 hd
    have hgroups := isSetOf_nameSet draft.memberOf
    exact {
      enabled := reads_flag_iff.1 h.enabled
      extensions := reads_members_iff.1 h.extensions
      defaults := reads_members_iff.1 h.defaults
      via := reads_names_iff.1 h.via
      viaGroups := reads_names_iff.1 h.viaGroups
      memberOf := ⟨_, reads_names_iff.1 h.memberOf, hgroups⟩
      mapper := reads_text_iff.1 h.mapper
      authorities := ⟨_, reads_names_iff.1 h.authorities, isSetOf_nameSet _⟩
      consistent := hconsistent.imp_left hgroups.eq_nil_iff.2 }
  · intro h
    obtain ⟨groups, hgroups, hset⟩ := h.memberOf
    obtain ⟨actors, hactors, hset'⟩ := h.authorities
    refine ⟨⟨d.enabled, d.extensions, d.defaults, d.via, d.viaGroups, groups, d.mapper, actors⟩,
      ?_, toDevice_eq_ok_iff.2 ⟨h.consistent.imp_left hset.eq_nil_iff.1, ?_⟩⟩
    · exact {
        enabled := reads_flag_iff.2 h.enabled
        extensions := reads_members_iff.2 h.extensions
        defaults := reads_members_iff.2 h.defaults
        via := reads_names_iff.2 h.via
        viaGroups := reads_names_iff.2 h.viaGroups
        memberOf := reads_names_iff.2 hgroups
        mapper := reads_text_iff.2 h.mapper
        authorities := reads_names_iff.2 hactors }
    · rw [← hset.eq_nameSet, ← hset'.eq_nameSet]

/-- Only the members of the fields matter for a device, as for the draft that it is made from. For
the two sets it is the lists behind them that are compared. -/
theorem DescribedBy.congr {ms' : Members} (h : ∀ name, ms.get? name = ms'.get? name)
    (hd : d.DescribedBy ms) : d.DescribedBy ms' := by
  obtain ⟨groups, hgroups, hset⟩ := hd.memberOf
  obtain ⟨actors, hactors, hset'⟩ := hd.authorities
  exact {
    enabled := (Members.Has.congr (h _)).1 hd.enabled
    extensions := (Members.Has.congr (h _)).1 hd.extensions
    defaults := (Members.Has.congr (h _)).1 hd.defaults
    via := (Members.Has.congr (h _)).1 hd.via
    viaGroups := (Members.Has.congr (h _)).1 hd.viaGroups
    memberOf := ⟨groups, (Members.Has.congr (h _)).1 hgroups, hset⟩
    mapper := (Members.Has.congr (h _)).1 hd.mapper
    authorities := ⟨actors, (Members.Has.congr (h _)).1 hactors, hset'⟩
    consistent := hd.consistent }

/-- Members are a device exactly when they are a document of one. Each field is asked on its own,
and all of them together only whether the relationships exclude each other. -/
theorem exists_describedBy_iff : (∃ d : Device, d.DescribedBy ms) ↔ IsDocument ms := by
  constructor
  · rintro ⟨d, h⟩
    obtain ⟨groups, hgroups, hset⟩ := h.memberOf
    obtain ⟨actors, hactors, -⟩ := h.authorities
    have hflag := (Members.exists_has_iff _).1 ⟨_, h.enabled⟩
    have hmapper := (Members.exists_has_iff _).1 ⟨_, h.mapper⟩
    exact {
      enabled := fun v hv => Decoder.exists_nullable_iff.1 (hflag v hv)
      extensions := (Members.exists_has_iff _).1 ⟨_, h.extensions⟩
      defaults := (Members.exists_has_iff _).1 ⟨_, h.defaults⟩
      via := (Members.exists_has_iff _).1 ⟨_, h.via⟩
      viaGroups := (Members.exists_has_iff _).1 ⟨_, h.viaGroups⟩
      memberOf := (Members.exists_has_iff _).1 ⟨_, hgroups⟩
      mapper := fun v hv => Decoder.exists_nullable_iff.1 (hmapper v hv)
      authorities := (Members.exists_has_iff _).1 ⟨_, hactors⟩
      exclusive := by
        intro group more hmember name names
        have hmember : groups = group :: more := (listed_injective (hgroups.eq_write hmember)).symm
        -- The device belongs to a group, so it is behind no gateways.
        have hnone : d.via = [] ∧ d.viaGroups = [] := h.consistent.resolve_left fun hnil => by
          rw [hset.eq_nil_iff.1 hnil] at hmember
          cases hmember
        constructor
        · intro hvia
          cases (listed_injective (h.via.eq_write hvia)).trans hnone.1
        · intro hvia
          cases (listed_injective (h.viaGroups.eq_write hvia)).trans hnone.2 }
  · intro h
    obtain ⟨enabled, henabled⟩ := (Members.exists_has_iff none).2
      fun v hv => Decoder.exists_nullable_iff.2 (h.enabled v hv)
    obtain ⟨extensions, hextensions⟩ := (Members.exists_has_iff []).2 h.extensions
    obtain ⟨defaults, hdefaults⟩ := (Members.exists_has_iff []).2 h.defaults
    obtain ⟨via, hvia⟩ := (Members.exists_has_iff []).2 h.via
    obtain ⟨viaGroups, hviaGroups⟩ := (Members.exists_has_iff []).2 h.viaGroups
    obtain ⟨groups, hgroups⟩ := (Members.exists_has_iff []).2 h.memberOf
    obtain ⟨mapper, hmapper⟩ := (Members.exists_has_iff none).2
      fun v hv => Decoder.exists_nullable_iff.2 (h.mapper v hv)
    obtain ⟨actors, hactors⟩ := (Members.exists_has_iff []).2 h.authorities
    have hset := isSetOf_nameSet groups
    refine ⟨⟨enabled, extensions, defaults, via, viaGroups, nameSet groups, mapper,
      nameSet actors⟩, henabled, hextensions, hdefaults, hvia, hviaGroups, ⟨groups, hgroups, hset⟩,
      hmapper, ⟨actors, hactors, isSetOf_nameSet actors⟩, ?_⟩
    cases groups with
    | nil => exact .inl rfl
    | cons group more =>
      have hmember := hgroups.get?_eq (List.cons_ne_nil _ _)
      refine .inr ⟨?_, ?_⟩
      · cases via with
        | nil => rfl
        | cons name names =>
          exact absurd (hvia.get?_eq (List.cons_ne_nil _ _))
            (h.exclusive _ _ hmember name names).1
      · cases viaGroups with
        | nil => rfl
        | cons name names =>
          exact absurd (hviaGroups.get?_eq (List.cons_ne_nil _ _))
            (h.exclusive _ _ hmember name names).2

/-! ### Decoding -/

/-- A draft that is taken from members and is a device is the one that the members describe. -/
theorem takes_draft_iff (hnodup : ms.names.Nodup) :
    (∃ draft, DeviceDraft.record.Takes ms draft ∧ draft.toDevice = .ok d) ↔ d.DescribedBy ms := by
  simp only [PlainRecord.takes_iff DeviceDraft.describes hnodup]
  exact exists_draft_iff

/-- A device is decoded from the members that a document gives it: those of an object, or those that
an array gives by their places. -/
theorem decoder_ofValue_eq_ok_iff (hv : v.NamesOnce) : decoder.ofValue v = .ok d ↔
    ∃ ms, DeviceDraft.record.membersOf? v = some ms ∧ d.DescribedBy ms := by
  unfold decoder Decoder.convert
  dsimp only
  simp only [except_bind_eq_ok, except_mapError_eq_ok,
    PlainRecord.decoder_ofValue_eq_ok_iff DeviceDraft.names_nodup]
  constructor
  · rintro ⟨draft, ⟨ms, hms, htakes⟩, hd⟩
    have hnodup := PlainRecord.nodup_of_membersOf? DeviceDraft.names_nodup hv hms
    exact ⟨ms, hms, (takes_draft_iff hnodup).1 ⟨draft, htakes, hd⟩⟩
  · rintro ⟨ms, hms, hd⟩
    have hnodup := PlainRecord.nodup_of_membersOf? DeviceDraft.names_nodup hv hms
    obtain ⟨draft, htakes, hd⟩ := (takes_draft_iff hnodup).2 hd
    exact ⟨draft, ⟨ms, hms, htakes⟩, hd⟩

/-- A device is decoded from a text as from its document, when what belongs to its fields is not too
deep. What belongs to no field is passed over in a text, and may be as deep as it likes. -/
theorem decoder_ofBytes_eq_ok_iff {deep : Nat} {bytes : List UInt8}
    (hread : readAll (readDocument deep) bytes = .ok v) (hv : v.NamesOnce) :
    decoder.ofBytes bytes = .ok d ↔ DeviceDraft.record.IsShallow greatestDepth v ∧
      ∃ ms, DeviceDraft.record.membersOf? v.normalize = some ms ∧ d.DescribedBy ms := by
  obtain ⟨c₁, hdoc, hend⟩ := readAll_eq_ok_iff.1 hread
  -- Reading the text gives the draft that its members make, which is the same one as for the value.
  have htext : ∀ draft c,
      DeviceDraft.record.decoder.ofText greatestDepth (.start (Text.Symbol.decode bytes)) =
        .ok (draft, c) ↔ c = c₁ ∧ ∃ ms, DeviceDraft.record.membersOf? v = some ms ∧
          (∀ m ∈ ms, m.1 ∈ DeviceDraft.record.names → m.2.levels ≤ 126) ∧
            DeviceDraft.record.Takes (Value.normalizeMembers ms) draft := fun _ _ =>
    PlainRecord.decoder_ofText_eq_ok_iff DeviceDraft.names_nodup
      (fun f hf => DeviceDraft.fields_stream hf) hdoc
  have hnodup : ∀ {ms}, DeviceDraft.record.membersOf? v = some ms →
      (Members.names (Value.normalizeMembers ms)).Nodup := by
    intro ms hms
    rw [PlainRecord.names_normalizeMembers]
    exact PlainRecord.nodup_of_membersOf? DeviceDraft.names_nodup hv hms
  rw [Decoder.ofBytes, readAll_eq_ok_iff]
  constructor
  · rintro ⟨c, hd, -⟩
    obtain ⟨draft, hdraft, hd⟩ := Decoder.convert_ofText_eq_ok_iff.1 hd
    obtain ⟨rfl, ms, hms, hshallow, htakes⟩ := (htext draft c).1 hdraft
    have hd := (takes_draft_iff (hnodup hms)).1 ⟨draft, htakes, except_mapError_eq_ok.1 hd⟩
    rcases PlainRecord.membersOf?_normalize hv with ⟨hnone, -⟩ | ⟨_, ms', hms₁, hms', hget⟩
    · cases hms.symm.trans hnone
    · cases hms.symm.trans hms₁
      refine ⟨fun _ hms₂ m hm hname => ?_, ms', hms', hd.congr fun name => (hget name).symm⟩
      cases hms.symm.trans hms₂
      exact Nat.lt_succ_of_le (hshallow m hm hname)
  · rintro ⟨hshallow, ms', hms', hd⟩
    rcases PlainRecord.membersOf?_normalize hv with ⟨-, hnone⟩ | ⟨ms, _, hms, hms₁, hget⟩
    · cases hms'.symm.trans hnone
    · cases hms'.symm.trans hms₁
      obtain ⟨draft, htakes, hd⟩ := (takes_draft_iff (hnodup hms)).2 (hd.congr hget)
      have hlevels : ∀ m ∈ ms, m.1 ∈ DeviceDraft.record.names → m.2.levels ≤ 126 :=
        fun m hm hname => Nat.le_of_lt_succ (hshallow ms hms m hm hname)
      exact ⟨c₁, Decoder.convert_ofText_eq_ok_iff.2 ⟨draft,
        (htext draft c₁).2 ⟨rfl, ms, hms, hlevels, htakes⟩, except_mapError_eq_ok.2 hd⟩, hend⟩

end Device

end DeviceRegistry
