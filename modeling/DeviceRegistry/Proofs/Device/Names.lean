import DeviceRegistry.Device.Basic

/-!
# `DeviceRegistry.Proofs.Device.Names`: sets of names

The groups of a device and those who may act for it are sets. A set is kept as the list of its
names in order, none of them twice, so every set has one form. Main statements:

* `isSetOf_nameSet`: the set of a list has exactly the names of the list.
* `IsSetOf.eq_nameSet`: there is no other list that has them, in order and none twice.
-/

set_option autoImplicit false

namespace DeviceRegistry

variable {m name : String} {s t names : List String}

/-- A list has the names of another one, in order and none of them twice. -/
structure IsSetOf (s names : List String) : Prop where
  sorted : s.Pairwise (· < ·)
  mem_iff : ∀ n, n ∈ s ↔ n ∈ names

/-- Putting in a name adds this name and no other. With the order that it keeps, this makes the
names of a device the set of those that were given. -/
theorem mem_insertName : m ∈ insertName name s ↔ m = name ∨ m ∈ s := by
  induction s with
  | nil => simp [insertName]
  | cons n s ih =>
    rw [insertName]
    by_cases hlt : name < n
    · rw [if_pos hlt, List.mem_cons]
    · rw [if_neg hlt]
      by_cases heq : name = n
      · rw [if_pos heq, heq, List.mem_cons]
        exact ⟨.inr, fun h => h.elim .inl id⟩
      · rw [if_neg heq, List.mem_cons, List.mem_cons, ih]
        exact or_left_comm

/-- A name is put in its place, so names in order stay in order. One that is there already is not
put in again. -/
theorem sorted_insertName (h : s.Pairwise (· < ·)) : (insertName name s).Pairwise (· < ·) := by
  induction s with
  | nil => exact List.pairwise_singleton _ _
  | cons n s ih =>
    obtain ⟨hfirst, hrest⟩ := List.pairwise_cons.1 h
    rw [insertName]
    -- The name goes in front of the first greater one, unless it is there already.
    by_cases hlt : name < n
    · rw [if_pos hlt]
      refine List.pairwise_cons.2 ⟨fun x hx => ?_, h⟩
      rcases List.mem_cons.1 hx with rfl | hx
      · exact hlt
      · exact String.lt_trans hlt (hfirst x hx)
    · rw [if_neg hlt]
      by_cases heq : name = n
      · rw [if_pos heq]
        exact h
      · rw [if_neg heq]
        refine List.pairwise_cons.2 ⟨fun x hx => ?_, ih hrest⟩
        rcases mem_insertName.1 hx with rfl | hx
        · exact Std.lt_of_le_of_ne (Std.not_lt.1 hlt) (Ne.symm heq)
        · exact hfirst x hx

/-- The set of a list has exactly the names of the list. The names are put in one by one, so the
induction is on those that are left. -/
theorem isSetOf_nameSet (names : List String) : IsSetOf (nameSet names) names := by
  -- The names that are still to be put in join those that are there.
  have hacc : ∀ acc : List String, acc.Pairwise (· < ·) →
      (names.foldl (fun s n => insertName n s) acc).Pairwise (· < ·) ∧
        ∀ n, n ∈ names.foldl (fun s n => insertName n s) acc ↔ n ∈ names ∨ n ∈ acc := by
    induction names with
    | nil => exact fun acc h => ⟨h, fun n => by simp⟩
    | cons name names ih =>
      intro acc h
      obtain ⟨hsorted, hmem⟩ := ih (insertName name acc) (sorted_insertName h)
      refine ⟨hsorted, fun n => ?_⟩
      rw [List.foldl_cons, hmem, mem_insertName, List.mem_cons]
      exact or_left_comm.trans or_assoc.symm
  obtain ⟨hsorted, hmem⟩ := hacc [] List.Pairwise.nil
  exact ⟨hsorted, fun n => (hmem n).trans (by simp)⟩

/-- Names have one set. Lists in order that have the same names are the same. -/
theorem IsSetOf.unique (hs : IsSetOf s names) (ht : IsSetOf t names) : s = t := by
  have hnodup : ∀ {l : List String}, l.Pairwise (· < ·) → l.Nodup := by
    intro l hl
    refine List.Pairwise.imp ?_ hl
    intro a b hlt he
    exact String.lt_irrefl _ (he ▸ hlt)
  refine List.Perm.eq_of_pairwise (fun a b _ _ hab hba => ?_) hs.sorted ht.sorted
    ((List.perm_ext_iff_of_nodup (hnodup hs.sorted) (hnodup ht.sorted)).2
      fun n => (hs.mem_iff n).trans (ht.mem_iff n).symm)
  exact absurd (String.lt_trans hab hba) (String.lt_irrefl _)

/-- So a list in order that has the names of another one is its set. -/
theorem IsSetOf.eq_nameSet (h : IsSetOf s names) : s = nameSet names :=
  h.unique (isSetOf_nameSet names)

/-- Only no names have the empty set. So a rule that asks for some names asks for a set that is not
empty. -/
theorem IsSetOf.eq_nil_iff (h : IsSetOf s names) : s = [] ↔ names = [] := by
  simp only [List.eq_nil_iff_forall_not_mem, h.mem_iff]

end DeviceRegistry
