import Mathlib.Data.List.Nodup
import DeviceRegistry.Proofs.Json.PlainRecord

/-!
# `DeviceRegistry.Proofs.Json.Repeated`: names that stand more than once

The members of a text are taken into a record in their order, those of a document sorted and without
the ones that others of their name follow. Both give the same record, unless a name that the record
knows is repeated. Main statements:

* `normalForm_filter`, `normalForm_forget`: the members that are left when they are sorted.
* `Partial.takeAll_once`, `Partial.takeAll_filter`: a repeated field is refused, and members that
  are no fields do not matter.
* `Record.Describes.ofMembers_sort_iff`: sorted members give the same record.
-/

set_option autoImplicit false

namespace DeviceRegistry.Json

variable {σ : Type} {name : String} {ms : Members}

/-! ### Sorted members -/

namespace Members

/-- Names are picked as their members are. The test is on the name, so it does not matter which
comes first. -/
theorem names_filter (keep : String → Bool) (ms : Members) :
    names (ms.filter fun m => keep m.1) = ms.names.filter keep := by
  rw [names, names, List.filter_map]
  rfl

/-- Members may be picked by their names before they are sorted or after. -/
theorem normalForm_filter (keep : String → Bool) (ms : Members) :
    normalForm (ms.filter fun m => keep m.1) = (normalForm ms).filter fun m => keep m.1 := by
  refine Sorted.ext (sorted_sort _) ((sorted_sort _).sublist List.filter_sublist) fun k => ?_
  rw [get?_filter, get?_normalForm, get?_normalForm, ← List.filter_reverse, get?_filter]
  cases keep k <;> rfl

/-- A member that another one of its name follows is forgotten. The last member of a name counts in
a value. -/
theorem normalForm_forget {v : Value} {before after : Members} (h : name ∈ names after) :
    normalForm (before ++ (name, v) :: after) = normalForm (before ++ after) := by
  refine Sorted.ext (sorted_sort _) (sorted_sort _) fun k => ?_
  have hafter : name ∈ names after.reverse := by
    rw [names, List.map_reverse, List.mem_reverse]
    exact h
  rw [get?_normalForm, get?_normalForm, List.reverse_append, List.reverse_append,
    List.reverse_cons, List.append_assoc, List.singleton_append, get?_append, get?_append,
    get?_cons]
  by_cases hk : name = k
  · subst hk
    cases hfound : get? name after.reverse with
    | some w => rfl
    | none => exact absurd hafter (get?_eq_none_iff.1 hfound)
  · rw [if_neg hk]

end Members

/-! ### Taking members -/

namespace Partial

variable {fields : List (Field σ)} {p q : Partial σ}

/-- A field that is taken has not been seen before, and has been seen afterwards. -/
theorem not_seen_of_take {v : Value} (h : p.take fields name v = .ok q)
    (hfield : isField fields name = true) : name ∉ p.seen ∧ q.seen = name :: p.seen := by
  obtain ⟨f, hf⟩ := Option.isSome_iff_exists.1 hfield
  rw [take, hf] at h
  dsimp only at h
  split at h
  · cases h
  · rename_i hnew
    obtain ⟨change, -, rfl⟩ := except_map_eq_ok.1 h
    exact ⟨hnew, rfl⟩

/-- A field that is repeated is refused. What was taken before matters, so the induction is for all
that may have been seen. -/
theorem takeAll_once (h : p.takeAll fields ms = .ok q) (hfield : isField fields name = true) :
    (name ∈ p.seen → name ∉ ms.names) ∧ ms.names.count name ≤ 1 := by
  -- What was taken before matters: a name that is known does not come, any other one once.
  induction ms generalizing p with
  | nil => simp [Members.names]
  | cons m ms ih =>
    obtain ⟨k, v⟩ := m
    obtain ⟨p', htake, hrest⟩ := takeAll_cons h
    obtain ⟨hseen, hcount⟩ := ih hrest
    rw [Members.names_cons]
    by_cases hk : k = name
    · subst hk
      obtain ⟨hnew, hseen'⟩ := not_seen_of_take htake hfield
      -- The name is known from here on, so it does not come again.
      have hlast : k ∉ Members.names ms := hseen (hseen' ▸ List.mem_cons_self)
      refine ⟨fun hmem => absurd hmem hnew, ?_⟩
      exact Nat.le_of_eq (by rw [List.count_cons_self, List.count_eq_zero_of_not_mem hlast])
    · have hsame : name ∈ p.seen → name ∈ p'.seen := by
        intro hmem
        rcases take_cases htake with ⟨-, rfl⟩ | ⟨f, change, -, -, rfl⟩
        · exact hmem
        · exact List.mem_cons_of_mem _ hmem
      rw [List.mem_cons, not_or, List.count_cons_of_ne hk]
      exact ⟨fun hmem => ⟨fun he => hk he.symm, hseen (hsame hmem)⟩, hcount⟩

/-- Members that are no fields do not matter. The two partial records differ in what is left over,
and agree in all that fields depend on. -/
theorem takeAll_filter {keep : String → Bool}
    (hkeep : ∀ name, isField fields name = true → keep name = true) (hpq : p.Agrees q) :
    (p.takeAll fields ms).map record =
      (q.takeAll fields (ms.filter fun m => keep m.1)).map record := by
  -- The two partial records differ in what is left over, and agree in all that fields depend on.
  induction ms generalizing p q with
  | nil => exact congrArg Except.ok hpq.record
  | cons m ms ih =>
    obtain ⟨k, v⟩ := m
    rw [takeAll, take]
    cases hf : fieldOf? fields k with
    | none =>
      rw [except_bind_ok]
      have hkept : (p.keep k v).Agrees q := ⟨hpq.record, hpq.seen⟩
      cases hk : keep k with
      | false =>
        rw [List.filter_cons, if_neg (Bool.eq_false_iff.1 hk)]
        exact ih hkept
      | true =>
        rw [List.filter_cons, if_pos hk, takeAll, take, hf]
        exact ih ⟨hpq.record, hpq.seen⟩
    | some f =>
      have hk := hkeep k (isField_of_fieldOf? hf)
      rw [List.filter_cons, if_pos hk, takeAll, take, hf, hpq.seen]
      dsimp only
      by_cases hseen : k ∈ q.seen
      · rw [if_pos hseen, if_pos hseen]
        rfl
      · rw [if_neg hseen, if_neg hseen]
        cases f.decoder.ofValue v with
        | error m => rfl
        | ok change => exact ih (hpq.set k change)

end Partial

/-! ### Records -/

namespace Record

variable {r : Record σ} {s : σ} {others : Members}

/-- Records have no members that repeat the name of a field. Own fields are counted among all
members, and shared ones among those that are left over. -/
theorem ofMembers_once (h : r.ofMembers ms = .ok (s, others)) (hname : r.hasField name = true) :
    ms.names.count name ≤ 1 := by
  obtain ⟨p, q, hp, hq, -, -⟩ := ofMembers_eq_ok h
  cases hown : isField r.own name with
  | true => exact (Partial.takeAll_once hp hown).2
  | false =>
    rw [hasField, hown, Bool.false_or] at hname
    have hcount := (Partial.takeAll_once hq hname).2
    -- The own fields have left over all members of another name.
    rw [Partial.takeAll_others hp, Partial.start, List.nil_append,
      Members.names_filter fun n => !isField r.own n, List.count_filter (by simp [hown])] at hcount
    exact hcount

/-- The shared fields go on with the record of the own fields and what is left over. -/
theorem ofMembers_map_fst (r : Record σ) (ms : Members) : (r.ofMembers ms).map Prod.fst =
    (Partial.takeAll r.own (.start r.blank) ms).map Partial.record >>= fun s =>
      (Partial.takeAll r.shared (.start s) (ms.filter fun m => !isField r.own m.1)).map
        Partial.record := by
  rw [ofMembers]
  cases hown : Partial.takeAll r.own (.start r.blank) ms with
  | error m => rfl
  | ok p =>
    have hothers : p.others = ms.filter fun m => !isField r.own m.1 := Partial.takeAll_others hown
    rw [except_bind_ok, except_map_ok, except_bind_ok, hothers]
    cases Partial.takeAll r.shared (.start p.record) (ms.filter fun m => !isField r.own m.1) <;> rfl

/-- Members that belong to no field do not matter: leaving them out first gives the same record. So
two objects that differ in such members are decoded alike. -/
theorem ofMembers_filter (r : Record σ) (ms : Members) : (r.ofMembers ms).map Prod.fst =
    (r.ofMembers (ms.filter fun m => r.hasField m.1)).map Prod.fst := by
  have hsame : ∀ s : σ, (Partial.start s).Agrees (Partial.start s) := fun s => ⟨rfl, rfl⟩
  have hown : ∀ name, isField r.own name = true → r.hasField name = true := by
    intro name h
    rw [hasField, h, Bool.true_or]
  have hshared : ∀ name, isField r.shared name = true → r.hasField name = true := by
    intro name h
    rw [hasField, h, Bool.or_true]
  -- Leaving out what is no field can be done before the own fields take theirs, or after.
  have hcommute : (ms.filter fun m => r.hasField m.1).filter (fun m => !isField r.own m.1) =
      (ms.filter fun m => !isField r.own m.1).filter fun m => r.hasField m.1 := by
    rw [List.filter_filter, List.filter_filter]
    congr 1
    funext m
    exact Bool.and_comm _ _
  rw [ofMembers_map_fst, ofMembers_map_fst, Partial.takeAll_filter hown (hsame r.blank), hcommute]
  congr 1
  funext s
  rw [Partial.takeAll_filter hshared (hsame s)]

/-- The members of the fields have different names when none of those names is repeated. -/
theorem nodup_names_filter (honce : ∀ name, r.hasField name = true → ms.names.count name ≤ 1) :
    (Members.names (ms.filter fun m => r.hasField m.1)).Nodup := by
  rw [Members.names_filter r.hasField, List.nodup_iff_count_le_one]
  intro name
  cases hname : r.hasField name with
  | true =>
    rw [List.count_filter hname]
    exact honce name hname
  | false =>
    rw [List.count_eq_zero_of_not_mem (by simp [List.mem_filter, hname])]
    exact Nat.zero_le 1

variable {Describe : Members → σ → Prop}

/-- Sorted members give the same record when no name of a field is repeated and only the members of
the fields matter. Other names may be repeated, and sorting leaves one member of each. -/
theorem Describes.ofMembers_sort_iff (h : r.Describes Describe)
    (hcongr : ∀ ms ms' s, (∀ name, r.hasField name = true → ms.get? name = ms'.get? name) →
      Describe ms s → Describe ms' s)
    (honce : ∀ name, r.hasField name = true → ms.names.count name ≤ 1) :
    (r.ofMembers ms.sort).map Prod.fst = .ok s ↔ (r.ofMembers ms).map Prod.fst = .ok s := by
  have hnodup := nodup_names_filter honce
  have hsorted : Members.Sorted (ms.sort.filter fun m => r.hasField m.1) :=
    (Members.sorted_sort ms).sublist List.filter_sublist
  -- Each field has the one member of its name before and after.
  have hget : ∀ name, r.hasField name = true →
      Members.get? name (ms.sort.filter fun m => r.hasField m.1) =
        Members.get? name (ms.filter fun m => r.hasField m.1) := by
    intro name hname
    rw [Members.get?_filter r.hasField, if_pos hname, Members.get?_sort,
      ← Members.get?_reverse hnodup, ← List.filter_reverse, Members.get?_filter r.hasField,
      if_pos hname]
  rw [ofMembers_filter r ms.sort, ofMembers_filter r ms,
    h.ofMembers_eq_ok_iff hsorted.nodup_names, h.ofMembers_eq_ok_iff hnodup]
  exact ⟨hcongr _ _ s hget, hcongr _ _ s fun name hname => (hget name hname).symm⟩

end Record

end DeviceRegistry.Json
