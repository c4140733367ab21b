import DeviceRegistry.Proofs.Device.Document
import DeviceRegistry.Proofs.Json.Present
import DeviceRegistry.Proofs.Json.RoundTrip

/-!
# `DeviceRegistry.Proofs.Device.Written`: devices are read back

A device that was read from a file is written as a document that is read as the same device,
although the file may hold members that cannot be decoded, repeat names of sets, or be an array.
Main statements:

* `isStorable_of_ofBytes`: what every device that is read has in common.
* `describedBy_document`: a document describes the device that it was written for.
* `decoder_ofBytes_of_laidOut`: a device is read back from every text of its document.
-/

set_option autoImplicit false

namespace DeviceRegistry

open DeviceRegistry.Json

variable {α : Type} {d : Device} {name : String} {depth : Nat} {ms : Members}

/-! ### What is read -/

/-- Opaque members in normal form that are not nested too deep. -/
def Json.Members.IsShallow (depth : Nat) (ms : Members) : Prop :=
  ms.IsNormal ∧ (Value.object ms).levels ≤ depth

/-- A field that carries opaque members puts shallow ones into a record, and any other field leaves
them alone. So whatever is read, opaque members are no deeper than the reader goes. -/
theorem Json.PlainRecord.keeps_isShallow {f : Field α} {get : α → Members}
    (hstreams : f.decoder.Streams) (hcarries : f.Carries name .members get) :
    PlainRecord.Keeps (fun s => (get s).IsShallow depth) depth f := by
  intro c change c' hread s hs
  obtain ⟨v, hv, hchange⟩ := (hstreams depth c change c').1 hread
  by_cases hname : f.name = name
  · have hmembers := hcarries.fills hname s v change hchange
    rw [Decoder.members_eq_ok] at hmembers
    have hnormal := readValue_isNormal hv
    rw [hmembers] at hnormal
    exact hnormal
  · show (get (change s)).IsShallow depth
    rw [hcarries.keeps hname s v change hchange]
    exact hs

/-- No members are shallow. The depth of a device without extensions is therefore that of its own
fields. -/
theorem Json.Members.isShallow_nil : Members.IsShallow (depth + 1) [] :=
  ⟨Members.isNormal_nil, Nat.le_add_left 1 depth⟩

namespace Device

/-- A device as operations leave it: its opaque members are in normal form and its sets are
sorted. -/
structure IsWellFormed (d : Device) : Prop where
  extensions : d.extensions.IsNormal
  defaults : d.defaults.IsNormal
  memberOf : IsSetOf d.memberOf d.memberOf
  authorities : IsSetOf d.authorities d.authorities

/-- A device that can be written and read: its opaque members are in normal form and not nested too
deep, its sets are sorted, and its relationships are consistent. -/
structure IsStorable (d : Device) : Prop where
  extensions : d.extensions.IsShallow 126
  defaults : d.defaults.IsShallow 126
  memberOf : IsSetOf d.memberOf d.memberOf
  authorities : IsSetOf d.authorities d.authorities
  consistent : d.Consistent

/-- What can be stored is well formed; it is only not too deep, besides. -/
theorem IsStorable.isWellFormed (h : d.IsStorable) : d.IsWellFormed :=
  ⟨h.extensions.1, h.defaults.1, h.memberOf, h.authorities⟩

/-- A set of names is its own set. What a device has, it would have if it were read again. -/
theorem isSetOf_self_nameSet (names : List String) : IsSetOf (nameSet names) (nameSet names) :=
  ⟨(isSetOf_nameSet names).sorted, fun _ => Iff.rfl⟩

/-- Every device that is read from a text can be written, whatever else the text holds. The text may
have been an array, or may have had members that are passed over. -/
theorem isStorable_of_ofBytes {bytes : List UInt8} (h : decoder.ofBytes bytes = .ok d) :
    d.IsStorable := by
  obtain ⟨c, hread, -⟩ := readAll_eq_ok_iff.1 h
  obtain ⟨draft, hdraft, hd⟩ := Decoder.convert_ofText_eq_ok_iff.1 hread
  -- The two objects that are kept as they are were read inside the document, so they are less deep
  -- than it may be.
  have hopaque : ∀ {name : String} (get : DeviceDraft → Members), get {} = [] →
      (∀ f ∈ DeviceDraft.record.fields, f.Carries name .members get) →
      (get draft).IsShallow 126 := by
    intro name get hblank hcarries
    refine PlainRecord.decoder_ofText_invariant (P := fun s => (get s).IsShallow 126) ?_ ?_ hdraft
    · show (get {}).IsShallow 126
      rw [hblank]
      exact Members.isShallow_nil
    · intro f hf
      exact PlainRecord.keeps_isShallow (DeviceDraft.fields_stream hf) (hcarries f hf)
  have hconsistent := consistent_of_toDevice (except_mapError_eq_ok.1 hd)
  obtain ⟨-, rfl⟩ := toDevice_eq_ok_iff.1 (except_mapError_eq_ok.1 hd)
  exact {
    extensions := hopaque _ rfl fun f hf => (DeviceDraft.fields_carries hf).2.1
    defaults := hopaque _ rfl fun f hf => (DeviceDraft.fields_carries hf).2.2.1
    memberOf := isSetOf_self_nameSet _
    authorities := isSetOf_self_nameSet _
    consistent := hconsistent }

/-! ### What is written -/

end Device

namespace Json.Members

/-- The members of those names that have a value. -/
def ofOptional (l : List (String × Option Value)) : Members :=
  l.filterMap fun p => p.2.map fun v => (p.1, v)

variable {l : List (String × Option Value)}

/-- Names with a value are some of the names, in the same order. -/
theorem names_ofOptional_sublist (l : List (String × Option Value)) :
    (ofOptional l).names.Sublist (l.map Prod.fst) := by
  induction l with
  | nil => exact List.Sublist.refl _
  | cons p l ih =>
    obtain ⟨name, o⟩ := p
    cases o with
    | none => exact ih.cons name
    | some v => exact ih.cons_cons name

/-- A member is written for a name and its value, and a name without one is left out. So what is
written is told by membership in the list of parts. -/
theorem mem_ofOptional_iff {m : String × Value} :
    m ∈ ofOptional l ↔ (m.1, some m.2) ∈ l := by
  obtain ⟨k, v⟩ := m
  rw [ofOptional, List.mem_filterMap]
  constructor
  · rintro ⟨⟨name, o⟩, hmem, h⟩
    obtain ⟨w, rfl, hw⟩ := Option.map_eq_some_iff.1 h
    cases hw
    exact hmem
  · exact fun hmem => ⟨_, hmem, rfl⟩

/-- What is found under a name is its value, if it has one. The names of the parts are all
different, so no other part can stand in front of it. -/
theorem get?_ofOptional (hnodup : (l.map Prod.fst).Nodup) {o : Option Value} (h : (name, o) ∈ l) :
    get? name (ofOptional l) = o := by
  induction l with
  | nil => cases h
  | cons p l ih =>
    obtain ⟨k, o'⟩ := p
    rw [List.map_cons, List.nodup_cons] at hnodup
    obtain ⟨hnew, hnodup⟩ := hnodup
    rcases List.mem_cons.1 h with he | hmem
    · cases he
      cases o with
      | some v => exact if_pos rfl
      -- A name has one place only, so it has no value elsewhere.
      | none =>
        refine get?_eq_none_iff.2 fun hname => hnew ?_
        exact (names_ofOptional_sublist l).subset hname
    · have hne : k ≠ name := by
        rintro rfl
        exact hnew (List.mem_map.2 ⟨_, hmem, rfl⟩)
      cases o' with
      | none => exact ih hnodup hmem
      | some v => exact (if_neg hne).trans (ih hnodup hmem)

/-- So it is in normal form, where it is the normal form of the value. -/
theorem get?_normalForm_ofOptional (hnodup : (l.map Prod.fst).Nodup) {o : Option Value}
    (h : (name, o) ∈ l) : get? name (normalForm (ofOptional l)) = o.map Value.normalize := by
  rw [get?_normalForm, get?_reverse (hnodup.sublist (names_ofOptional_sublist l)),
    get?_ofOptional hnodup h]

/-- The normal form of members that have a value has the normal forms of those values. -/
theorem mem_normalForm_ofOptional_iff {v : Value} (hnodup : (l.map Prod.fst).Nodup) :
    (name, v) ∈ normalForm (ofOptional l) ↔ ∃ w, (name, some w) ∈ l ∧ w.normalize = v := by
  constructor
  · intro h
    have hmem := mem_of_mem_sort h
    rw [Value.normalizeMembers_eq_map, List.mem_map] at hmem
    obtain ⟨m, hm, he⟩ := hmem
    cases he
    exact ⟨m.2, mem_ofOptional_iff.1 hm, rfl⟩
  · rintro ⟨w, hw, rfl⟩
    exact mem_of_get? (get?_normalForm_ofOptional hnodup hw)

end Json.Members

namespace Device

/-- What is written unless it is empty. -/
def unlessNil (write : List α → Value) (l : List α) : Option Value :=
  if l = [] then none else some (write l)

/-- What is written unless it is empty is written when it is not empty. -/
theorem unlessNil_eq_some {write : List α → Value} {l : List α} {v : Value} :
    unlessNil write l = some v ↔ l ≠ [] ∧ write l = v := by
  unfold unlessNil
  by_cases hnil : l = [] <;> simp [hnil]

/-- What is written for each field of a device. -/
def fieldValues (d : Device) : List (String × Option Value) := [
  ("enabled", d.enabled.map .bool),
  ("ext", unlessNil .object d.extensions),
  ("defaults", unlessNil .object d.defaults),
  ("via", unlessNil listed d.via),
  ("viaGroups", unlessNil listed d.viaGroups),
  ("memberOf", unlessNil listed d.memberOf),
  ("mapper", d.mapper.map .string),
  ("authorities", unlessNil listed d.authorities)]

/-- The fields stand in the document in the order of the table that reads them. -/
theorem names_fieldValues (d : Device) :
    d.fieldValues.map Prod.fst = DeviceDraft.record.names := rfl

/-- No two fields are written under one name, so what is found under a name is what its field has.
-/
theorem nodup_fieldValues (d : Device) : (d.fieldValues.map Prod.fst).Nodup := by
  rw [names_fieldValues]
  exact DeviceDraft.names_nodup

/-- The document of a device has the fields that are set, or not empty, in their order. -/
theorem document_eq (d : Device) : d.document = .object (Members.ofOptional d.fieldValues) := by
  have hnames : ∀ field names, namesMember field names =
      (unlessNil listed names).map fun v => (field, v) := by
    intro field names
    cases names <;> rfl
  have hmembers : ∀ field ms, membersMember field ms =
      (unlessNil .object ms).map fun v => (field, v) := by
    intro field ms
    cases ms <;> rfl
  simp [document, Value.ofPresent, Members.ofOptional, fieldValues, hnames, hmembers,
    List.filterMap_cons, Function.comp_def]

/-- A list of names is in normal form. There are texts in it and nothing else. -/
theorem normalize_listed (names : List String) : (listed names).normalize = listed names := by
  rw [listed, Value.normalize_array, List.map_map]
  rfl

/-- Optional data is found again in what is written for it, and its absence says that there is
none. -/
theorem has_of_map {o : Option α} {write : α → Value}
    (hwrite : ∀ a, (write a).normalize = write a)
    (h : ms.get? name = (o.map write).map Value.normalize) :
    ms.Has name (Decoder.nullable write) none o := by
  unfold Members.Has
  cases o with
  | none =>
    rw [h]
    rfl
  | some a =>
    rw [h]
    exact hwrite a

/-- The absence of what is written unless it is empty says that it is. So an empty list and a list
that is missing are read alike, and writing may leave it out. -/
theorem has_of_unlessNil {l : List α} {write : List α → Value}
    (hwrite : (write l).normalize = write l)
    (h : ms.get? name = (unlessNil write l).map Value.normalize) : ms.Has name write [] l := by
  unfold Members.Has
  unfold unlessNil at h
  by_cases hnil : l = []
  · rw [h, if_pos hnil]
    exact hnil
  · rw [h, if_neg hnil]
    exact hwrite

/-- A document describes the device that it was written for, field by field. It is what makes the
device one that can be read back. -/
theorem describedBy_document (h : d.IsWellFormed) (hconsistent : d.Consistent) :
    d.DescribedBy (Members.normalForm (Members.ofOptional d.fieldValues)) := by
  have hget : ∀ {name o}, (name, o) ∈ d.fieldValues →
      (Members.normalForm (Members.ofOptional d.fieldValues)).get? name = o.map Value.normalize :=
    fun hmem => Members.get?_normalForm_ofOptional (nodup_fieldValues d) hmem
  exact {
    enabled := has_of_map (fun _ => rfl) (hget (by simp [fieldValues]))
    extensions := has_of_unlessNil h.extensions.normalize (hget (by simp [fieldValues]))
    defaults := has_of_unlessNil h.defaults.normalize (hget (by simp [fieldValues]))
    via := has_of_unlessNil (normalize_listed _) (hget (by simp [fieldValues]))
    viaGroups := has_of_unlessNil (normalize_listed _) (hget (by simp [fieldValues]))
    memberOf := ⟨_, has_of_unlessNil (normalize_listed _) (hget (by simp [fieldValues])),
      h.memberOf⟩
    mapper := has_of_map (fun _ => rfl) (hget (by simp [fieldValues]))
    authorities := ⟨_, has_of_unlessNil (normalize_listed _) (hget (by simp [fieldValues])),
      h.authorities⟩
    consistent := hconsistent }

/-! ### What is read back -/

/-- No name is written twice. So a reader that refuses repeated names accepts the document. -/
theorem namesOnce_document (d : Device) : d.document.NamesOnce := by
  intro ms hms
  rw [document_eq, Value.object.injEq] at hms
  rw [← hms]
  exact (nodup_fieldValues d).sublist (Members.names_ofOptional_sublist _)

/-- What is written unless it is empty is as deep as it is when it is written. -/
theorem levels_of_unlessNil {l : List α} {write : List α → Value} {v : Value}
    (hwrite : (write l).levels ≤ depth) (h : some v = unlessNil write l) : v.levels ≤ depth := by
  obtain ⟨-, rfl⟩ := unlessNil_eq_some.1 h.symm
  exact hwrite

/-- A list of names has a single level, whatever depth is asked for. It never makes a document too
deep. -/
theorem levels_listed (names : List String) : (listed names).levels ≤ depth + 1 := by
  rw [listed, Value.levels_array_le_iff, List.forall_mem_map]
  exact fun _ _ => Nat.zero_le _

/-- Only opaque members can make a document deep, and they were no deeper when they were read. So a
document that is written again is within the limit of the parser. -/
theorem levels_document (h : d.IsStorable) : d.document.levels ≤ greatestDepth := by
  rw [document_eq, greatestDepth, Value.levels_object_le_iff]
  rintro ⟨k, v⟩ hm
  have hfield := Members.mem_ofOptional_iff.1 hm
  simp only [fieldValues, List.mem_cons, List.not_mem_nil, or_false, Prod.mk.injEq] at hfield
  rcases hfield with h' | h' | h' | h' | h' | h' | h' | h'
  · obtain ⟨b, -, rfl⟩ := Option.map_eq_some_iff.1 h'.2.symm
    exact Nat.zero_le _
  · exact levels_of_unlessNil h.extensions.2 h'.2
  · exact levels_of_unlessNil h.defaults.2 h'.2
  · exact levels_of_unlessNil (levels_listed _) h'.2
  · exact levels_of_unlessNil (levels_listed _) h'.2
  · exact levels_of_unlessNil (levels_listed _) h'.2
  · obtain ⟨s, -, rfl⟩ := Option.map_eq_some_iff.1 h'.2.symm
    exact Nat.zero_le _
  · exact levels_of_unlessNil (levels_listed _) h'.2

/-- A device is read back from every text of its document, wherever blanks stand in it, when all
numbers are whole. -/
theorem decoder_ofBytes_of_laidOut {text : String} {chars after : List Char} (h : d.IsStorable)
    (hwhole : d.document.IsWhole) (hlaid : LaidOut d.document chars) (hafter : AreBlank after)
    (htext : text.toList = chars ++ after) : decoder.ofBytes (Text.bytes text) = .ok d := by
  have hlevels := levels_document h
  have hread := readAll_of_laidOut hlaid hwhole hlevels hafter htext
  have hdescribed := describedBy_document h.isWellFormed h.consistent
  refine (decoder_ofBytes_eq_ok_iff hread (namesOnce_document d)).2 ⟨?_, _, ?_, hdescribed⟩
  · exact PlainRecord.isShallow_of_levels hlevels
  · rw [document_eq, Members.normalize_object]
    rfl

end Device

end DeviceRegistry
