import DeviceRegistry.Json.Value

/-!
# `DeviceRegistry.Proofs.Json.Members`: members as a finite map

Sorted members without a repeated name are a finite map from names to values. The theorems describe
every operation on members by what `get?` finds afterwards:

* `get?_insert`, `get?_append`, `get?_filter`: the operations on members.
* `sorted_sort` / `get?_sort`: sorting makes a map, in which a repeated name has its last value.
* `sort_of_sorted`: a map is sorted already.
* `Sorted.ext`: two maps that find the same values are equal.
-/

set_option autoImplicit false

namespace DeviceRegistry.Json.Members

variable {k name : String} {v w : Value} {ms l r : Members}

/-- Members in the order of their names, none of which is there twice. -/
def Sorted (ms : Members) : Prop := ms.Pairwise fun a b => a.1 < b.1

/-! ### Names -/

/-- The first name is that of the first member. It lets `simp` go through names as it goes through
members. -/
theorem names_cons (m : String × Value) (ms : Members) : names (m :: ms) = m.1 :: ms.names := rfl

/-- The name of a member is one of the names. So a member whose name is not among them is none. -/
theorem mem_names_of_mem {m : String × Value} (h : m ∈ ms) : m.1 ∈ ms.names :=
  List.mem_map_of_mem h

/-- Sorted members do not repeat a name, as no name comes before itself. -/
theorem Sorted.nodup_names (h : Sorted ms) : ms.names.Nodup := by
  unfold names List.Nodup
  rw [List.pairwise_map]
  refine List.Pairwise.imp ?_ h
  intro a b hlt heq
  rw [heq] at hlt
  exact String.lt_irrefl _ hlt

/-- Members are sorted when the others are and come behind the first. -/
theorem sorted_cons {m : String × Value} :
    Sorted (m :: ms) ↔ (∀ n ∈ ms, m.1 < n.1) ∧ Sorted ms :=
  List.pairwise_cons

/-- Some of the members of a map are a map, as they keep their order. Leaving members out is the
case that is used. -/
theorem Sorted.sublist (h : Sorted r) (hsub : l.Sublist r) : Sorted l :=
  List.Pairwise.sublist hsub h

/-! ### What is found -/

/-- Nothing is found among no members. With it `simp` finishes a search in a list of known members.
-/
@[simp]
theorem get?_nil : get? k [] = none := rfl

/-- The first member is found under its name, and else one of the others. -/
theorem get?_cons (m : String × Value) (ms : Members) :
    get? k (m :: ms) = if m.1 = k then some m.2 else get? k ms := rfl

/-- What is found in front hides what is found behind. Where lists of members are joined, this says
which of them counts. -/
theorem get?_append : get? k (l ++ r) = (get? k l).or (get? k r) := by
  induction l with
  | nil => rfl
  | cons m l ih =>
    rw [List.cons_append, get?_cons, get?_cons, ih]
    split <;> rfl

/-- Nothing is found under a name that no member has, and under every other name something is. -/
theorem get?_eq_none_iff : get? k ms = none ↔ k ∉ ms.names := by
  induction ms with
  | nil => simp [names]
  | cons m ms ih =>
    rw [get?_cons, names_cons, List.mem_cons, not_or]
    by_cases h : m.1 = k
    · simp [h]
    · rw [if_neg h, ih]
      exact ⟨fun hk => ⟨fun e => h e.symm, hk⟩, fun hk => hk.2⟩

/-- What is found is a member. So what holds of all members holds of what is found under a name,
whether names are repeated or not. -/
theorem mem_of_get? (h : get? k ms = some v) : (k, v) ∈ ms := by
  induction ms with
  | nil => cases h
  | cons m ms ih =>
    rw [get?_cons] at h
    split at h
    · rename_i hk
      cases h
      subst hk
      exact List.mem_cons_self
    · exact List.mem_cons_of_mem _ (ih h)

/-- When no name is repeated, every member is found, since none hides another. It is the other
direction of the lemma above, which needs no such condition. -/
theorem get?_of_mem (hnodup : ms.names.Nodup) (h : (k, v) ∈ ms) : get? k ms = some v := by
  induction ms with
  | nil => cases h
  | cons m ms ih =>
    rw [names_cons, List.nodup_cons] at hnodup
    rw [get?_cons]
    rcases List.mem_cons.1 h with rfl | h
    · rw [if_pos rfl]
    -- A member behind the first has another name than the first.
    · have hne : m.1 ≠ k := by
        intro he
        exact hnodup.1 (he ▸ mem_names_of_mem h)
      rw [if_neg hne]
      exact ih hnodup.2 h

/-- Members picked by their names are found under those names. Filters by the value would be another
matter, as they could uncover a member that was hidden. -/
theorem get?_filter (p : String → Bool) :
    get? k (ms.filter fun m => p m.1) = if p k then get? k ms else none := by
  induction ms with
  | nil => simp
  | cons m ms ih =>
    rw [List.filter_cons, get?_cons]
    by_cases hm : p m.1 = true
    · rw [if_pos hm, get?_cons, ih]
      by_cases hk : m.1 = k
      · rw [if_pos hk, if_pos hk, ← hk, if_pos hm]
      · rw [if_neg hk, if_neg hk]
    · rw [if_neg hm, ih]
      by_cases hk : m.1 = k
      · rw [← hk, if_neg hm, if_neg hm]
      · rw [if_neg hk]

/-- Erasing a name leaves what is found under all others. A decoder that has taken a member erases
it for the next one. -/
theorem get?_erase : get? k (erase name ms) = if k = name then none else get? k ms := by
  rw [erase, get?_filter fun n => decide (n ≠ name)]
  by_cases hk : k = name
  · simp [hk]
  · simp [hk]

/-- The order does not matter when no name is repeated. This is why the last value of a name may be
looked up in either order then. -/
theorem get?_reverse (hnodup : ms.names.Nodup) : get? k ms.reverse = get? k ms := by
  have hreverse : (names ms.reverse).Nodup := by
    unfold names
    rw [List.map_reverse]
    exact (List.reverse_perm _).nodup_iff.2 hnodup
  -- A name is found as often in the one order as in the other, and what it finds is unique.
  cases h : get? k ms with
  | none =>
    rw [get?_eq_none_iff] at h ⊢
    unfold names
    rw [List.map_reverse, List.mem_reverse]
    exact h
  | some v => exact get?_of_mem hreverse (List.mem_reverse.2 (mem_of_get? h))

/-! ### Sorting -/

/-- A member is found where it was put; the others are found as before. This holds for every list of
members, in order or not. -/
theorem get?_insert : get? k (insert name v ms) = if name = k then some v else get? k ms := by
  induction ms with
  | nil => rfl
  | cons m ms ih =>
    obtain ⟨n, w⟩ := m
    rw [insert, get?_cons]
    by_cases hlt : name < n
    · rw [if_pos hlt, get?_cons, get?_cons]
    · rw [if_neg hlt]
      by_cases heq : name = n
      · rw [if_pos heq, get?_cons, heq]
        by_cases hk : n = k
        · rw [if_pos hk, if_pos hk]
        · rw [if_neg hk, if_neg hk, if_neg hk]
      · rw [if_neg heq, get?_cons, ih]
        by_cases hk : n = k
        · rw [if_pos hk, if_pos hk, if_neg fun e => heq (e.trans hk.symm)]
        · rw [if_neg hk, if_neg hk]

/-- Putting a member in adds no other member. What holds of all members is therefore kept when it
holds of the new one, as being in normal form does. -/
theorem mem_insert {m : String × Value} (h : m ∈ insert name v ms) : m = (name, v) ∨ m ∈ ms := by
  induction ms with
  | nil => exact .inl (List.mem_singleton.1 h)
  | cons n ms ih =>
    obtain ⟨n, w⟩ := n
    rw [insert] at h
    split at h
    · exact List.mem_cons.1 h
    · split at h
      · rcases List.mem_cons.1 h with h | h
        · exact .inl h
        · exact .inr (List.mem_cons_of_mem _ h)
      · rcases List.mem_cons.1 h with h | h
        · exact .inr (h ▸ List.mem_cons_self)
        · rcases ih h with h | h
          · exact .inl h
          · exact .inr (List.mem_cons_of_mem _ h)

/-- Putting a member into a map gives a map: it stands before the first name that comes after its
own, or takes the place of the member of its own name. -/
theorem sorted_insert (h : Sorted ms) : Sorted (insert name v ms) := by
  induction ms with
  | nil => exact List.pairwise_singleton _ _
  | cons m ms ih =>
    obtain ⟨n, w⟩ := m
    obtain ⟨hfirst, hrest⟩ := sorted_cons.1 h
    rw [insert]
    -- The name goes in front of the first greater one, or in place of itself.
    by_cases hlt : name < n
    · rw [if_pos hlt]
      refine sorted_cons.2 ⟨fun x hx => ?_, h⟩
      rcases List.mem_cons.1 hx with rfl | hx
      · exact hlt
      · exact String.lt_trans hlt (hfirst x hx)
    · rw [if_neg hlt]
      by_cases heq : name = n
      · rw [if_pos heq]
        subst heq
        exact sorted_cons.2 ⟨hfirst, hrest⟩
      · rw [if_neg heq]
        refine sorted_cons.2 ⟨fun x hx => ?_, ih hrest⟩
        rcases mem_insert hx with rfl | hx
        · exact Std.lt_of_le_of_ne (Std.not_lt.1 hlt) (Ne.symm heq)
        · exact hfirst x hx

/-- A member whose name comes behind all others is put at the end. So members that come in order are
put one behind the other. -/
theorem insert_of_last (h : ∀ m ∈ ms, m.1 < name) : insert name v ms = ms ++ [(name, v)] := by
  induction ms with
  | nil => rfl
  | cons m ms ih =>
    obtain ⟨n, w⟩ := m
    have hn : n < name := h _ List.mem_cons_self
    have hlt : ¬ name < n := fun hlt => String.lt_irrefl _ (String.lt_trans hn hlt)
    have hne : name ≠ n := fun he => String.lt_irrefl _ (he ▸ hn)
    rw [insert, if_neg hlt, if_neg hne, ih fun x hx => h x (List.mem_cons_of_mem _ hx)]
    rfl

/-- Sorting gives a map, since members are put into it one by one. -/
theorem sorted_sort (ms : Members) : Sorted ms.sort := by
  unfold sort
  -- The induction is on what is still to be put in, for every map that has been made so far.
  suffices h : ∀ acc : Members, Sorted acc →
      Sorted (ms.foldl (fun acc m => insert m.1 m.2 acc) acc) from h [] List.Pairwise.nil
  induction ms with
  | nil => exact fun acc h => h
  | cons m ms ih => exact fun acc h => ih _ (sorted_insert h)

/-- Sorting keeps the last value of every name. Later members are put in place of those that were
put in before. -/
theorem get?_sort (ms : Members) : get? k ms.sort = get? k ms.reverse := by
  unfold sort
  -- What is put in later hides what was there.
  suffices h : ∀ acc : Members,
      get? k (ms.foldl (fun acc m => insert m.1 m.2 acc) acc) =
        (get? k ms.reverse).or (get? k acc) by
    rw [h, get?_nil, Option.or_none]
  induction ms with
  | nil => exact fun acc => rfl
  | cons m ms ih =>
    intro acc
    rw [List.foldl_cons, ih, get?_insert, List.reverse_cons, get?_append, get?_cons, get?_nil]
    cases get? k ms.reverse with
    | some v => rfl
    | none => split <;> rfl

/-- Sorting does not change a map, as each of its members is put at the end. So a value in normal
form is its own normal form. -/
theorem sort_of_sorted (h : Sorted ms) : ms.sort = ms := by
  unfold sort
  -- What is still to be put in comes behind all that was, so every member is put at the end.
  suffices hacc : ∀ acc : Members, Sorted (acc ++ ms) →
      ms.foldl (fun acc m => insert m.1 m.2 acc) acc = acc ++ ms from hacc [] h
  clear h
  induction ms with
  | nil => exact fun acc _ => (List.append_nil acc).symm
  | cons m ms ih =>
    intro acc hacc
    have hlast : ∀ n ∈ acc, n.1 < m.1 := fun n hn =>
      (List.pairwise_append.1 hacc).2.2 n hn m List.mem_cons_self
    rw [List.foldl_cons, insert_of_last hlast, ih, List.append_assoc]
    · rfl
    · rw [List.append_assoc]
      exact hacc

/-- Two maps in which the same values are found are equal. It reduces the equality of normal forms
to looking up every name. -/
theorem Sorted.ext (hl : Sorted l) (hr : Sorted r) (h : ∀ k, get? k l = get? k r) : l = r := by
  have hnodup : ∀ {ms : Members}, Sorted ms → ms.Nodup := by
    intro ms hs
    refine List.Pairwise.imp ?_ hs
    intro a b hlt he
    exact String.lt_irrefl _ (he ▸ hlt)
  have hmem : ∀ m, m ∈ l ↔ m ∈ r := by
    rintro ⟨k, v⟩
    constructor
    · intro hm
      exact mem_of_get? ((h k).symm.trans (get?_of_mem hl.nodup_names hm))
    · intro hm
      exact mem_of_get? ((h k).trans (get?_of_mem hr.nodup_names hm))
  -- Both are sorted lists of the same members, and a strict order leaves one way to sort them.
  refine List.Perm.eq_of_pairwise (fun a b _ _ hab hba => ?_) hl hr
    ((List.perm_ext_iff_of_nodup (hnodup hl) (hnodup hr)).2 hmem)
  exact absurd (String.lt_trans hab hba) (String.lt_irrefl _)

end DeviceRegistry.Json.Members
