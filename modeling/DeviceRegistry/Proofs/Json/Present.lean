import DeviceRegistry.Proofs.Json.Decoder
import DeviceRegistry.Proofs.Json.Record

/-!
# `DeviceRegistry.Proofs.Json.Present`: what was written is found

A document is written as a list of members that may be absent. The `simp` lemmas look a name up in
such a list. Main statements:

* `get?_normalForm_present`: what the normal form of a document holds under a name.
* `reads_optional`: a decoder reads back what was written for it.
-/

set_option autoImplicit false

namespace DeviceRegistry.Json

variable {α : Type} {k name : String} {ms : Members}

namespace Members

/-- The members that are present. -/
def present (l : List (Option (String × Value))) : Members := l.filterMap id

/-- Nothing is found where nothing is present. It is the last step of a search in a list of parts.
-/
@[simp]
theorem get?_present_nil : get? k (present []) = none := rfl

/-- A member that is present is found under its name, before those behind it. -/
@[simp]
theorem get?_present_some (m : String × Value) (l : List (Option (String × Value))) :
    get? k (present (some m :: l)) = if m.1 = k then some m.2 else get? k (present l) := rfl

/-- A member that is absent is passed over. With the lemmas beside it `simp` finds what stands under
a name. -/
@[simp]
theorem get?_present_none (l : List (Option (String × Value))) :
    get? k (present (none :: l)) = get? k (present l) := rfl

/-- Optional data is found under its name where it is there. -/
@[simp]
theorem get?_present_map (o : Option α) (f : α → Value) (l : List (Option (String × Value))) :
    get? k (present ((o.map fun a => (name, f a)) :: l)) =
      if name = k then (o.map f).or (get? k (present l)) else get? k (present l) := by
  cases o with
  | none => simp
  | some a => simp

/-- What is left out under a condition is found where the condition does not hold. -/
@[simp]
theorem get?_present_ite (p : Prop) [Decidable p] (m : String × Value)
    (l : List (Option (String × Value))) :
    get? k (present ((if p then none else some m) :: l)) =
      if m.1 = k ∧ ¬ p then some m.2 else get? k (present l) := by
  by_cases h : p
  · simp [h]
  · simp [h]

/-- Members are present in one part after the other. So the shared members can be dealt with apart
from the own ones. -/
theorem present_append (l r : List (Option (String × Value))) :
    present (l ++ r) = present l ++ present r :=
  List.filterMap_append

/-- Members that cannot be absent are all present. It is for members that are kept as they are. -/
theorem present_map_some (ms : Members) : present (ms.map some) = ms := by
  simp [present, List.filterMap_map]

/-- The normal form of a document holds the last member of a name that is present. So the other
members of a credential, which are written last, hide its parts. -/
theorem get?_normalForm_present (l : List (Option (String × Value))) :
    get? k (normalForm (present l)) = (get? k (present l.reverse)).map Value.normalize := by
  rw [get?_normalForm, present, present, List.filterMap_reverse]

end Members

/-- A document is written as an object with the members that are present. -/
theorem Value.normalize_ofPresent (l : List (Option (String × Value))) :
    (Value.ofPresent l).normalize = .object (Members.present l).normalForm := by
  rw [Value.ofPresent, Members.normalize_object, Members.present]

/-- Optional data is read back from where it was written, if it was. It must not be written as
`null`, which stands for nothing. -/
theorem reads_optional {d : Decoder α} {f : α → Value} {o : Option α}
    (hget : ms.get? name = o.map f) (hread : ∀ a, o = some a → d.ofValue (f a) = .ok a)
    (hnull : ∀ a, f a ≠ .null) : ms.Reads name (.optional d) none o := by
  cases o with
  | none => exact (Members.Reads.of_none hget).2 rfl
  | some a =>
    rw [Members.Reads.of_some hget, Decoder.optional_eq_some]
    exact ⟨hnull a, hread a rfl⟩

end DeviceRegistry.Json
