import DeviceRegistry.Settings.Environment

/-!
# `DeviceRegistry.Proofs.Settings.Layers`: what can be forgotten before layers are joined

Settings are trees that are laid over one another. To forget something about a tree is to change its
members (`Value.mapMembers`), or to say nothing of one member at its top (`AgreesBut`). Both can be
done before the trees are joined instead of after. Main statements:

* `Passes.mapMembers`: changes that pass through a join do so for the members of tables.
* `AgreesBut.laidOver`: trees that agree but for a member do so when they are joined with others.
* `ofEnvironment_agreesBut`: a variable that sets a member at the top matters for this member only.
-/

set_option autoImplicit false

namespace DeviceRegistry.Settings

variable {name k : String} {v w : Value} {ms ns us ls : Table}

/-! ### Members -/

namespace Table

section
variable {g h : Option Value → Value}

/-- A member is put in front of the members with greater names. -/
theorem alter_cons_lt (hlt : name < k) :
    alter name g ((k, v) :: ms) = (name, g none) :: (k, v) :: ms :=
  if_pos hlt

/-- A member that is there is changed where it is. Its place in the table does not depend on the
value. -/
theorem alter_cons_self : alter name g ((name, v) :: ms) = (name, g (some v)) :: ms :=
  (if_neg (String.lt_irrefl name)).trans (if_pos rfl)

/-- A member is put behind the members with lesser names. With the two lemmas before, this is all
that is known of `Table.alter`. -/
theorem alter_cons_gt (hlt : k < name) :
    alter name g ((k, v) :: ms) = (k, v) :: alter name g ms := by
  have hne : name ≠ k := fun he => String.lt_irrefl k (he ▸ hlt)
  exact (if_neg (String.lt_asymm hlt)).trans (if_neg hne)

/-- A change does not matter before one that depends on nothing: the second one overwrites it. -/
theorem alter_const_alter (c : Value) (g : Option Value → Value) (ms : Table) :
    alter name (fun _ => c) (alter name g ms) = alter name (fun _ => c) ms := by
  induction ms with
  | nil => exact alter_cons_self
  | cons m ms ih =>
    obtain ⟨k, v⟩ := m
    rcases Std.lt_trichotomy name k with hlt | rfl | hlt
    · rw [alter_cons_lt hlt, alter_cons_self, alter_cons_lt hlt]
    · rw [alter_cons_self, alter_cons_self, alter_cons_self]
    · rw [alter_cons_gt hlt, alter_cons_gt hlt, alter_cons_gt hlt, ih]

/-- Changes to two members can be made in any order, because tables are sorted: where a name goes
does not depend on when it is put there. -/
theorem alter_comm (hne : name ≠ k) (g h : Option Value → Value) (ms : Table) :
    alter name g (alter k h ms) = alter k h (alter name g ms) := by
  -- The lesser name comes first, wherever the two are put.
  have hlt : ∀ {a b : String} (f f' : Option Value → Value), a < b →
      alter a f (alter b f' ms) = alter b f' (alter a f ms) := by
    intro a b f f' hab
    induction ms with
    | nil =>
      show alter a f [(b, f' none)] = alter b f' [(a, f none)]
      rw [alter_cons_lt hab, alter_cons_gt hab]
      rfl
    | cons m ms ih =>
      obtain ⟨n, v⟩ := m
      rcases Std.lt_trichotomy b n with hb | rfl | hb
      · have ha := String.lt_trans hab hb
        rw [alter_cons_lt hb, alter_cons_lt hab, alter_cons_lt ha, alter_cons_gt hab,
          alter_cons_lt hb]
      · rw [alter_cons_self, alter_cons_lt hab, alter_cons_lt hab, alter_cons_gt hab,
          alter_cons_self]
      · rw [alter_cons_gt hb]
        rcases Std.lt_trichotomy a n with ha | rfl | ha
        · rw [alter_cons_lt ha, alter_cons_lt ha, alter_cons_gt hab, alter_cons_gt hb]
        · rw [alter_cons_self, alter_cons_self, alter_cons_gt hb]
        · rw [alter_cons_gt ha, alter_cons_gt ha, alter_cons_gt hb, ih]
  rcases Std.lt_trichotomy name k with h' | rfl | h'
  · exact hlt g h h'
  · exact absurd rfl hne
  · exact (hlt h g h').symm

end

/-- The members of a table, each changed in a way that depends on its name. -/
def mapValues (change : String → Value → Value) (ms : Table) : Table :=
  ms.map fun m => (m.1, change m.1 m.2)

/-- A member can be changed before all are changed, or after, if the two changes agree on what
becomes of it and of a member that is not there. -/
theorem mapValues_alter {change : String → Value → Value} {g h : Option Value → Value}
    (hg : ∀ w, change name (g w) = h (w.map (change name))) (ms : Table) :
    mapValues change (alter name g ms) = alter name h (mapValues change ms) := by
  induction ms with
  | nil => exact congrArg (fun v => [(name, v)]) (hg none)
  | cons m ms ih =>
    obtain ⟨k, v⟩ := m
    rcases Std.lt_trichotomy name k with hlt | rfl | hlt
    · rw [alter_cons_lt hlt]
      refine Eq.trans ?_ (alter_cons_lt hlt).symm
      exact congrArg (fun v => (name, v) :: _) (hg none)
    · rw [alter_cons_self]
      refine Eq.trans ?_ alter_cons_self.symm
      exact congrArg (fun v => (name, v) :: _) (hg (some v))
    · rw [alter_cons_gt hlt]
      refine Eq.trans ?_ (alter_cons_gt hlt).symm
      exact congrArg ((k, change k v) :: ·) ih

/-- What is found under a name in a changed table is what was found before, changed. -/
theorem lookup_mapValues (change : String → Value → Value) (ms : Table) (k : String) :
    (mapValues change ms).lookup k = (ms.lookup k).map (change k) := by
  induction ms with
  | nil => rfl
  | cons m ms ih =>
    obtain ⟨n, v⟩ := m
    show List.lookup k ((n, change n v) :: mapValues change ms) = _
    rw [List.lookup_cons, List.lookup_cons, ih]
    cases h : k == n with
    | true => rw [eq_of_beq h]; rfl
    | false => rfl

end Table

/-! ### Changes of trees -/

namespace Value

/-- A change can be made to trees before they are laid over one another, or after. -/
def Passes (change : Value → Value) : Prop :=
  ∀ upper lower, change (upper.laidOver lower) = (change upper).laidOver (change lower)

/-- A tree with its members changed, each in a way that depends on its name. -/
def mapMembers (change : String → Value → Value) : Value → Value
  | .table ms => .table (Table.mapValues change ms)
  | v => v

/-- What is no table hides whatever it is laid over. So a scalar from a variable replaces a whole
section of the file. -/
theorem laidOver_of_not_table (h : ∀ ms, v ≠ .table ms) : v.laidOver w = v := by
  unfold laidOver
  split
  · exact absurd rfl (h _)
  · rfl

/-- What is laid over anything but a table replaces it. With the lemma before, only tables over
tables are joined. -/
theorem laidOver_not_table (h : ∀ ms, w ≠ .table ms) : v.laidOver w = v := by
  unfold laidOver
  split
  · exact absurd rfl (h _)
  · rfl

/-- A change that touches no tables and makes none passes: only tables are joined, and the choice
between other values depends on nothing but whether they are tables. -/
theorem Passes.of_scalar {change : Value → Value} (htable : ∀ ms, change (.table ms) = .table ms)
    (hother : ∀ v, (∀ ms, v ≠ .table ms) → ∀ ms, change v ≠ .table ms) : Passes change := by
  intro u l
  by_cases hu : ∃ ms, u = .table ms
  · obtain ⟨us, rfl⟩ := hu
    by_cases hl : ∃ ms, l = .table ms
    · obtain ⟨ls, rfl⟩ := hl
      rw [htable us, htable ls]
      exact htable _
    · have hl := not_exists.1 hl
      rw [laidOver_not_table hl, htable us, laidOver_not_table (hother l hl)]
  · have hu := not_exists.1 hu
    rw [laidOver_of_not_table hu, laidOver_of_not_table (hother u hu)]

/-- What is no table has no members to change. So passwords can only be taken out of tables. -/
theorem mapMembers_of_not_table {change : String → Value → Value} (h : ∀ ms, v ≠ .table ms) :
    v.mapMembers change = v := by
  cases v with
  | table ms => exact absurd rfl (h ms)
  | _ => rfl

/-- The members of joined tables are changed as those of the two tables are, if each change passes
through a join itself. -/
theorem mapValues_overMembers {change : String → Value → Value}
    (h : ∀ name, Passes (change name)) (us ls : Table) :
    Table.mapValues change (overMembers us ls) =
      overMembers (Table.mapValues change us) (Table.mapValues change ls) := by
  -- Along the upper table, each member of which alters one of the lower table.
  induction us generalizing ls with
  | nil => rfl
  | cons m us ih =>
    obtain ⟨name, v⟩ := m
    rw [overMembers, ih]
    show _ = overMembers (Table.mapValues change us) (Table.alter name _ _)
    refine congrArg (overMembers _) (Table.mapValues_alter ?_ ls)
    intro w
    cases w with
    | none => rfl
    | some w => exact h name v w

/-- Changes that pass through a join do so for the members of tables. Applied twice, this carries
the change of a password through profiles to the whole settings. -/
theorem Passes.mapMembers {change : String → Value → Value} (h : ∀ name, Passes (change name)) :
    Passes (mapMembers change) := by
  intro u l
  by_cases hu : ∃ ms, u = .table ms
  · obtain ⟨us, rfl⟩ := hu
    by_cases hl : ∃ ms, l = .table ms
    · obtain ⟨ls, rfl⟩ := hl
      exact congrArg Value.table (mapValues_overMembers h us ls)
    · have hl := not_exists.1 hl
      rw [laidOver_not_table hl, mapMembers_of_not_table hl]
      exact (laidOver_not_table hl).symm
  · have hu := not_exists.1 hu
    rw [laidOver_of_not_table hu, mapMembers_of_not_table hu, laidOver_of_not_table hu]

end Value

/-! ### Trees that agree -/

/-- What a member is set to when nothing is to be said of it. -/
def unsaid : Value := .boolean true

/-- Two tables agree but for the member of a name, which either may have or not: they are the same
once it is set alike. -/
def AgreesBut (name : String) (v w : Value) : Prop :=
  ∃ ms ns, v = .table ms ∧ w = .table ns ∧
    Table.alter name (fun _ => unsaid) ms = Table.alter name (fun _ => unsaid) ns

namespace AgreesBut

/-- A table agrees with itself, whatever the member. It is where variables that set only this member
start from. -/
theorem refl (name : String) (ms : Table) : AgreesBut name (.table ms) (.table ms) :=
  ⟨ms, ms, rfl, rfl, rfl⟩

/-- Agreement but for a member goes both ways. The two trees are treated alike by the definition. -/
theorem symm (h : AgreesBut name v w) : AgreesBut name w v := by
  obtain ⟨ms, ns, hv, hw, h⟩ := h
  exact ⟨ns, ms, hw, hv, h.symm⟩

/-- Agreement but for a member can be chained. The chain goes from the tree in the middle, as both
variables are laid on it. -/
theorem trans {x : Value} (h : AgreesBut name v w) (h' : AgreesBut name w x) :
    AgreesBut name v x := by
  obtain ⟨ms, ns, rfl, rfl, h⟩ := h
  obtain ⟨_, ps, ⟨⟩, rfl, h'⟩ := h'
  exact ⟨ms, ps, rfl, rfl, h.trans h'⟩

/-- Tables agree with what they are when the member is changed: once it is set alike in both, the
change is overwritten. -/
theorem alter_self (g : Option Value → Value) (ms : Table) :
    AgreesBut name (.table (Table.alter name g ms)) (.table ms) :=
  ⟨_, _, rfl, rfl, Table.alter_const_alter unsaid g ms⟩

/-- Tables that agree do so when a member of both is changed alike, be it the one they may differ in
or another. -/
theorem alter (g : Option Value → Value) (h : AgreesBut name (.table ms) (.table ns)) :
    AgreesBut name (.table (Table.alter k g ms)) (.table (Table.alter k g ns)) := by
  -- A change of the member itself goes unsaid; of another one, it is made behind that.
  by_cases hk : name = k
  · subst hk
    exact ((alter_self g ms).trans h).trans (alter_self g ns).symm
  · obtain ⟨_, _, ⟨⟩, ⟨⟩, h⟩ := h
    refine ⟨_, _, rfl, rfl, ?_⟩
    rw [Table.alter_comm hk, Table.alter_comm hk, h]

/-- The upper table may be laid over either of two tables that agree: its members are alterations,
made one after the other, and each of them keeps the agreement. -/
theorem overMembers_right (us : Table) (h : AgreesBut name (.table ms) (.table ns)) :
    AgreesBut name (.table (Value.overMembers us ms)) (.table (Value.overMembers us ns)) := by
  induction us generalizing ms ns with
  | nil => exact h
  | cons m us ih => exact ih (h.alter _)

/-- Setting the member in the upper table does not matter either, although it may come to stand at
another place among those that are laid over the lower table. -/
theorem overMembers_alter (g : Option Value → Value) (us ls : Table) :
    AgreesBut name (.table (Value.overMembers (Table.alter name g us) ls))
      (.table (Value.overMembers us ls)) := by
  -- Along the upper table, up to the place of the member.
  induction us generalizing ls with
  | nil => exact alter_self _ ls
  | cons m us ih =>
    obtain ⟨k, v⟩ := m
    rcases Std.lt_trichotomy name k with hlt | rfl | hlt
    · rw [Table.alter_cons_lt hlt]
      exact overMembers_right _ (alter_self _ ls)
    · rw [Table.alter_cons_self]
      exact overMembers_right us ((alter_self _ ls).trans (alter_self _ ls).symm)
    · rw [Table.alter_cons_gt hlt]
      exact ih _

/-- Trees that agree but for a member do so when they are laid over trees that do. Both are tables,
so each is first set alike, above and below. -/
theorem laidOver {u u' l l' : Value} (hu : AgreesBut name u u') (hl : AgreesBut name l l') :
    AgreesBut name (u.laidOver l) (u'.laidOver l') := by
  obtain ⟨us, us', rfl, rfl, hu⟩ := hu
  obtain ⟨ls, ls', rfl, rfl, hlower⟩ := hl
  have hupper : ∀ us : Table, AgreesBut name (.table (Value.overMembers us ls))
      (.table (Value.overMembers (Table.alter name (fun _ => unsaid) us) ls)) := fun us =>
    (overMembers_alter _ us ls).symm
  have hboth : AgreesBut name (.table (Value.overMembers us ls))
      (.table (Value.overMembers us' ls)) := by
    refine (hupper us).trans ?_
    rw [hu]
    exact (hupper us').symm
  exact hboth.trans (overMembers_right us' ⟨ls, ls', rfl, rfl, hlower⟩)

/-- Trees that agree but for a member do so when they are laid over any tree, a table or not. This
is the form in which a file is joined with variables. -/
theorem laidOver_same {u u' : Value} (h : AgreesBut name u u') (l : Value) :
    AgreesBut name (u.laidOver l) (u'.laidOver l) := by
  by_cases hl : ∃ ls, l = .table ls
  · obtain ⟨ls, rfl⟩ := hl
    exact h.laidOver (refl name ls)
  · have hl := not_exists.1 hl
    rwa [Value.laidOver_not_table hl, Value.laidOver_not_table hl]

end AgreesBut

/-! ### Sorting -/

section
variable {α : Type} {le : α → α → Bool}

/-- Where a list of items that do not come before one and of those that do is split is fixed, since
filtering the list gives back the second part. -/
theorem append_split_unique {p : α → Bool} {l₁ l₂ m₁ m₂ : List α} (h : l₁ ++ l₂ = m₁ ++ m₂)
    (hl : (∀ b ∈ l₁, p b = false) ∧ ∀ b ∈ l₂, p b = true)
    (hm : (∀ b ∈ m₁, p b = false) ∧ ∀ b ∈ m₂, p b = true) : l₁ = m₁ ∧ l₂ = m₂ := by
  have hfilter : ∀ {a b : List α}, (∀ x ∈ a, p x = false) ∧ (∀ x ∈ b, p x = true) →
      (a ++ b).filter p = b := by
    intro a b hab
    rw [List.filter_append, List.filter_eq_self.2 hab.2, List.filter_eq_nil_iff.2, List.nil_append]
    intro x hx
    simp [hab.1 x hx]
  have h₂ : l₂ = m₂ := by rw [← hfilter hl, h, hfilter hm]
  subst h₂
  exact ⟨List.append_cancel_right h, rfl⟩

/-- A sort that keeps the order of equal items can be made before items are left out, or after. This
lets a variable be left out before the variables are put in the order of their names. -/
theorem filter_mergeSort (trans : ∀ a b c, le a b = true → le b c = true → le a c = true)
    (total : ∀ a b, (le a b || le b a) = true) (p : α → Bool) (l : List α) :
    (l.mergeSort le).filter p = (l.filter p).mergeSort le := by
  -- The first item goes where those start that do not come before it.
  have hplace : ∀ a l, ∃ l₁ l₂, (a :: l).mergeSort le = l₁ ++ a :: l₂ ∧
      l.mergeSort le = l₁ ++ l₂ ∧ (∀ b ∈ l₁, le a b = false) ∧ ∀ b ∈ l₂, le a b = true := by
    intro a l
    obtain ⟨l₁, l₂, hsort, hrest, hbefore⟩ := List.mergeSort_cons trans total a l
    refine ⟨l₁, l₂, hsort, hrest, fun b hb => by simpa using hbefore b hb, ?_⟩
    have hsorted := List.pairwise_mergeSort trans total (a :: l)
    rw [hsort] at hsorted
    exact (List.pairwise_cons.1 (List.pairwise_append.1 hsorted).2.1).1
  induction l with
  | nil => simp
  | cons a l ih =>
    obtain ⟨l₁, l₂, hsort, hrest, hl₁, hl₂⟩ := hplace a l
    rw [hrest, List.filter_append] at ih
    rw [hsort, List.filter_append]
    cases ha : p a with
    | false =>
      have hno : ¬ p a = true := by simp [ha]
      rw [List.filter_cons_of_neg hno, List.filter_cons_of_neg hno, ih]
    | true =>
      obtain ⟨m₁, m₂, hsort', hrest', hm₁, hm₂⟩ := hplace a (l.filter p)
      rw [List.filter_cons_of_pos ha, List.filter_cons_of_pos ha, hsort']
      have hsame : l₁.filter p = m₁ ∧ l₂.filter p = m₂ :=
        append_split_unique (p := le a) (ih.trans hrest')
          ⟨fun b hb => hl₁ b (List.mem_filter.1 hb).1, fun b hb => hl₂ b (List.mem_filter.1 hb).1⟩
          ⟨hm₁, hm₂⟩
      rw [hsame.1, hsame.2]

end

/-! ### Variables -/

/-- The name of a variable has at least one part, however many separators it holds. -/
theorem parts_ne_nil (part s : List Char) : pathOfName.parts part s ≠ [] := by
  induction s generalizing part with
  | nil => exact List.cons_ne_nil _ _
  | cons c s ih =>
    unfold pathOfName.parts
    split
    · exact List.cons_ne_nil _ _
    · exact List.cons_ne_nil _ _
    · exact List.cons_ne_nil _ _
    · rename_i heq
      cases heq
      exact ih _

/-- A variable sets something below the top, never the whole tree: a name that would set the whole
one sets nothing. -/
theorem settingPath?_ne_nil {path : List String} (h : settingPath? name = some path) :
    path ≠ [] := by
  unfold settingPath? at h
  dsimp only at h
  split at h
  · split at h
    · cases h
    · cases h
      simpa [pathOfName] using parts_ne_nil _ _
  · cases h

/-- Lays what a variable sets over a tree. -/
def layOn (lower : Value) (var : String × String) : Value :=
  match settingPath? var.1 with
  | some path => (Value.under path (Value.ofText var.2)).laidOver lower
  | none => lower

/-- The variables are laid over one another in the order of their names. Those that set nothing lay
nothing, so that the list need not be filtered first. -/
theorem ofEnvironment_eq (env : Environment) :
    ofEnvironment env = (env.mergeSort fun a b => a.1 ≤ b.1).foldl layOn (.table []) := by
  unfold ofEnvironment
  dsimp only
  rw [List.foldl_filterMap]
  refine congrArg (fun f => List.foldl f _ _) (funext fun lower => funext fun x => ?_)
  unfold layOn
  cases settingPath? x.1 <;> rfl

/-- A tree below a name is a table, which is why a variable never hides what it does not set. -/
theorem exists_under {path : List String} (h : path ≠ []) (v : Value) :
    ∃ ms, Value.under path v = .table ms := by
  cases path with
  | nil => exact absurd rfl h
  | cons name path => exact ⟨_, rfl⟩

/-- A variable may be laid over either of two trees that agree, whatever it sets. -/
theorem AgreesBut.layOn (var : String × String) (h : AgreesBut name v w) :
    AgreesBut name (layOn v var) (layOn w var) := by
  unfold Settings.layOn
  cases hpath : settingPath? var.1 with
  | none => exact h
  | some path =>
    obtain ⟨us, hus⟩ := exists_under (settingPath?_ne_nil hpath) (Value.ofText var.2)
    dsimp only
    rw [hus]
    exact (AgreesBut.refl name us).laidOver h

/-- A variable that sets the member changes nothing else, so that leaving it out keeps the
agreement. -/
theorem AgreesBut.layOn_self {var : String × String} (hpath : settingPath? var.1 = some [name])
    (h : AgreesBut name v w) : AgreesBut name (Settings.layOn v var) w := by
  obtain ⟨ms, ns, rfl, rfl, hsame⟩ := h
  unfold Settings.layOn
  rw [hpath]
  exact (alter_self _ ms).trans ⟨ms, ns, rfl, rfl, hsame⟩

/-- A variable that sets a member at the top matters for this member only. Both environments are
compared with what is left of them when the variable is taken out, after they have been sorted. -/
theorem ofEnvironment_agreesBut {env env' : Environment} {var : String}
    (hpath : settingPath? var = some [name])
    (henv : (env.filter fun x => x.1 ≠ var) = env'.filter fun x => x.1 ≠ var) :
    AgreesBut name (ofEnvironment env) (ofEnvironment env') := by
  -- Without the variable nothing changes.
  have hwithout : ∀ (l : Environment) {v w : Value}, AgreesBut name v w →
      AgreesBut name (l.foldl layOn v) ((l.filter fun x => x.1 ≠ var).foldl layOn w) := by
    intro l
    induction l with
    | nil => exact fun h => h
    | cons x l ih =>
      intro v w h
      by_cases hx : x.1 = var
      · rw [List.filter_cons_of_neg (by simpa using hx)]
        exact ih (h.layOn_self (hx ▸ hpath))
      · rw [List.filter_cons_of_pos (by simpa using hx)]
        exact ih (h.layOn x)
  have hsort : ∀ env : Environment, AgreesBut name (ofEnvironment env)
      (ofEnvironment (env.filter fun x => x.1 ≠ var)) := by
    intro env
    rw [ofEnvironment_eq, ofEnvironment_eq, ← filter_mergeSort]
    · exact hwithout _ (AgreesBut.refl name [])
    · intro a b c hab hbc
      simpa using String.le_trans (by simpa using hab) (by simpa using hbc)
    · intro a b
      simpa using String.le_total a.1 b.1
  refine (hsort env).trans ?_
  rw [henv]
  exact (hsort env').symm

end DeviceRegistry.Settings
