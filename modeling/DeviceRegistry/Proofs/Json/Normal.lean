import DeviceRegistry.Proofs.Json.Members

/-!
# `DeviceRegistry.Proofs.Json.Normal`: normal forms

A document is in normal form when every object in it, however deep, is sorted by name and repeats
no name. Main statements:

* `isNormal_normalize`: normalizing yields a normal form.
* `normalize_of_isNormal`: a normal form stands for itself.
* `get?_normalForm`: what is found in the normal form of members is the normal form of the last
  member of that name.
-/

set_option autoImplicit false

namespace DeviceRegistry.Json

mutual

/-- Every object of a document is sorted by name and repeats no name. -/
def Value.IsNormal : Value → Prop
  | .array items => Value.AllNormal items
  | .object members => Members.Sorted members ∧ Value.MembersNormal members
  | _ => True

/-- All items of an array are in normal form. -/
def Value.AllNormal : List Value → Prop
  | [] => True
  | v :: r => v.IsNormal ∧ Value.AllNormal r

/-- The values of all members are in normal form. -/
def Value.MembersNormal : List (String × Value) → Prop
  | [] => True
  | (_, v) :: r => v.IsNormal ∧ Value.MembersNormal r

end

/-- Members of an object that is in normal form. -/
def Members.IsNormal (ms : Members) : Prop := (Value.object ms).IsNormal

variable {k : String} {v : Value} {ms : Members}

/-! ### What normal forms consist of -/

/-- Items are in normal form when each of them is. The definition goes through the items, and this
states it by membership. -/
theorem Value.allNormal_iff {items : List Value} :
    Value.AllNormal items ↔ ∀ v ∈ items, v.IsNormal := by
  induction items with
  | nil => simp [Value.AllNormal]
  | cons v items ih => simp [Value.AllNormal, ih]

/-- Values of members are in normal form when each of them is. -/
theorem Value.membersNormal_iff : Value.MembersNormal ms ↔ ∀ m ∈ ms, m.2.IsNormal := by
  induction ms with
  | nil => simp [Value.MembersNormal]
  | cons m ms ih => simp [Value.MembersNormal, ih]

/-- An array is in normal form when its items are. There is no order among items that could be
wrong. -/
theorem Value.isNormal_array {items : List Value} :
    (Value.array items).IsNormal ↔ ∀ v ∈ items, v.IsNormal := by
  rw [Value.IsNormal, Value.allNormal_iff]

namespace Members

/-- Members are in normal form when they are a map and their values are in normal form. -/
theorem isNormal_iff : ms.IsNormal ↔ Sorted ms ∧ ∀ m ∈ ms, m.2.IsNormal := by
  rw [IsNormal, Value.IsNormal, Value.membersNormal_iff]

/-- No members are in normal form. It is the form of extensions that are not there. -/
theorem isNormal_nil : IsNormal [] := isNormal_iff.2 ⟨List.Pairwise.nil, by simp⟩

/-- A single member is in normal form when its value is. -/
theorem isNormal_singleton (hv : v.IsNormal) : IsNormal [(k, v)] :=
  isNormal_iff.2 ⟨List.pairwise_singleton _ _, by simpa using hv⟩

/-- Members in normal form are a map. So a name is found once, and the order of members says
nothing. -/
theorem IsNormal.sorted (h : ms.IsNormal) : Sorted ms := (isNormal_iff.1 h).1

/-- What is found in a normal form is in normal form. -/
theorem IsNormal.value (h : ms.IsNormal) (hv : get? k ms = some v) : v.IsNormal :=
  (isNormal_iff.1 h).2 _ (mem_of_get? hv)

/-- Leaving members out keeps the normal form. The values of those that stay are not touched. -/
theorem IsNormal.filter (h : ms.IsNormal) (p : String × Value → Bool) :
    IsNormal (ms.filter p) := by
  obtain ⟨hsorted, hvalues⟩ := isNormal_iff.1 h
  refine isNormal_iff.2 ⟨hsorted.sublist List.filter_sublist, ?_⟩
  intro m hm
  exact hvalues m (List.mem_filter.1 hm).1

end Members

/-! ### Normalizing -/

namespace Value

/-- Items are normalized one by one. The definition is a recursion of its own, and this makes it a
`map`. -/
theorem normalizeItems_eq_map (items : List Value) :
    normalizeItems items = items.map normalize := by
  induction items with
  | nil => rfl
  | cons v items ih => rw [normalizeItems, ih, List.map_cons]

/-- Members keep their names and order, and their values are normalized. -/
theorem normalizeMembers_eq_map (ms : Members) :
    normalizeMembers ms = ms.map fun m => (m.1, m.2.normalize) := by
  induction ms with
  | nil => rfl
  | cons m ms ih => rw [normalizeMembers, ih, List.map_cons]

/-- An array is normalized item by item. The order of items counts, so they stay where they are. -/
theorem normalize_array (items : List Value) :
    (array items).normalize = array (items.map normalize) := by
  rw [normalize, normalizeItems_eq_map]

end Value

namespace Members

/-- The members of the normal form of an object. -/
def normalForm (ms : Members) : Members := sort (Value.normalizeMembers ms)

/-- The normal form of an object has the normal form of its members. -/
theorem normalize_object (ms : Members) :
    (Value.object ms).normalize = .object ms.normalForm := by
  rw [Value.normalize, normalForm]

/-- A name has the normal form of what it has before. -/
theorem get?_map_normalize :
    get? k (ms.map fun m => (m.1, m.2.normalize)) = (get? k ms).map Value.normalize := by
  induction ms with
  | nil => rfl
  | cons m ms ih =>
    rw [List.map_cons, get?_cons, get?_cons, ih]
    split <;> rfl

/-- A name of a normal form has the last value that it was given, as a normal form. -/
theorem get?_normalForm : get? k ms.normalForm = (get? k ms.reverse).map Value.normalize := by
  rw [normalForm, get?_sort, Value.normalizeMembers_eq_map, ← List.map_reverse, get?_map_normalize]

end Members

mutual

/-- A normal form stands for itself. The induction is on documents together with items and
members. -/
theorem Value.normalize_of_isNormal : ∀ v : Value, v.IsNormal → v.normalize = v
  | .array items, h => by
    rw [Value.normalize, Value.normalizeItems_of_allNormal items h]
  | .object ms, h => by
    rw [Value.normalize, Value.normalizeMembers_of_membersNormal ms h.2,
      Members.sort_of_sorted h.1]
  | .null, _ | .bool _, _ | .number _, _ | .string _, _ => rfl

/-- Items in normal form stand for themselves. It goes together with the lemma on values, each using
the other. -/
theorem Value.normalizeItems_of_allNormal :
    ∀ items : List Value, Value.AllNormal items → Value.normalizeItems items = items
  | [], _ => rfl
  | v :: r, h => by
    rw [Value.normalizeItems, Value.normalize_of_isNormal v h.1,
      Value.normalizeItems_of_allNormal r h.2]

/-- Members in normal form stand for themselves, one by one. That they are in order is another
matter. -/
theorem Value.normalizeMembers_of_membersNormal :
    ∀ ms : List (String × Value), Value.MembersNormal ms → Value.normalizeMembers ms = ms
  | [], _ => rfl
  | (_, v) :: r, h => by
    rw [Value.normalizeMembers, Value.normalize_of_isNormal v h.1,
      Value.normalizeMembers_of_membersNormal r h.2]

end

/-- Sorted members have only values that they had before. Where a name is repeated some of them are
lost, and none is new. -/
theorem Members.mem_of_mem_sort {m : String × Value} (h : m ∈ ms.sort) : m ∈ ms := by
  have hfound : get? m.1 ms.sort = some m.2 := get?_of_mem (sorted_sort ms).nodup_names h
  rw [get?_sort] at hfound
  exact List.mem_reverse.1 (mem_of_get? hfound)

mutual

/-- Normalizing yields a normal form. The induction is on documents together with items and members;
sorting is what puts an object in order. -/
theorem Value.isNormal_normalize : ∀ v : Value, v.normalize.IsNormal
  | .array items => by
    rw [Value.normalize, Value.IsNormal]
    exact Value.allNormal_normalizeItems items
  | .object ms => by
    rw [Value.normalize, Value.IsNormal, Value.membersNormal_iff]
    refine ⟨Members.sorted_sort _, ?_⟩
    intro m hm
    exact Value.membersNormal_iff.1 (Value.membersNormal_normalizeMembers ms) m
      (Members.mem_of_mem_sort hm)
  | .null | .bool _ | .number _ | .string _ => trivial

/-- The items of an array are in normal form once each of them has been normalized. -/
theorem Value.allNormal_normalizeItems :
    ∀ items : List Value, Value.AllNormal (Value.normalizeItems items)
  | [] => trivial
  | v :: r => ⟨Value.isNormal_normalize v, Value.allNormal_normalizeItems r⟩

/-- The values of an object are in normal form once each of them has been normalized. -/
theorem Value.membersNormal_normalizeMembers :
    ∀ ms : List (String × Value), Value.MembersNormal (Value.normalizeMembers ms)
  | [] => trivial
  | (_, v) :: r => ⟨Value.isNormal_normalize v, Value.membersNormal_normalizeMembers r⟩

end

namespace Members

/-- The normal form of members is in normal form. So it is a map, and normalizing it again changes
nothing. -/
theorem isNormal_normalForm (ms : Members) : ms.normalForm.IsNormal := by
  rw [IsNormal, ← normalize_object]
  exact Value.isNormal_normalize _

/-- Members in normal form are their own normal form. So what is stored in this form is read back as
it was. -/
theorem IsNormal.normalize (h : ms.IsNormal) : (Value.object ms).normalize = .object ms :=
  Value.normalize_of_isNormal _ h

end Members

end DeviceRegistry.Json
