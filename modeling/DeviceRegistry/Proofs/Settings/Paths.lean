import DeviceRegistry.Proofs.Settings.Ordered

/-!
# `DeviceRegistry.Proofs.Settings.Paths`: what trees say at paths

What a tree says that is laid over another is told path by path: the upper tree counts, and where
both have a table these are joined (`laid`). That is so on paths on which the upper tree has tables
only (`Value.IsOpen`). Anything else on the way hides what the lower tree has behind it.

Variables whose paths do not meet (`AreApart`) can be laid in any order. Their tree has the value of
a variable at its path, tables on the way to it, and nothing elsewhere. Each of these is seen by
laying that variable last. Main statements:

* `Value.at?_laidOver`: what a tree that is laid over another says at a path.
* `AreApart.ofEnvironment_eq_treeOf`: the order of the variables does not matter.
* `AreApart.at?_of_mem`, `AreApart.at?_of_below`, `AreApart.at?_eq_none`: what their tree says.
-/

set_option autoImplicit false

namespace DeviceRegistry.Settings

variable {name k : String} {v w u l t : Value} {ms us ls : Table} {p q : List String}

/-! ### Members -/

/-- A lookup looks at the first entry and then at the others, written with an equality of names. -/
theorem lookup_cons_ite {α : Type} (name : String) (a : α) (as : List (String × α)) (k : String) :
    ((name, a) :: as).lookup k = if k = name then some a else as.lookup k := by
  rw [List.lookup_cons]
  by_cases h : k = name
  · rw [if_pos h, beq_iff_eq.2 h]
  · rw [if_neg h, beq_eq_false_iff_ne.2 h]

/-- What is looked up is one of the entries. What holds of all entries holds of it. -/
theorem mem_of_lookup {α : Type} {as : List (String × α)} {a : α} (h : as.lookup name = some a) :
    (name, a) ∈ as := by
  obtain ⟨before, after, rfl, -⟩ := List.lookup_eq_some_iff.1 h
  exact List.mem_append_right _ List.mem_cons_self

/-- A name below all names of a table is not found in it. Two tables are laid over each other from
the least name on, and this ends the search in one of them. -/
theorem lookup_eq_none_of_lt {α : Type} {as : List (String × α)}
    (h : ∀ n ∈ as.map Prod.fst, name < n) : as.lookup name = none := by
  induction as with
  | nil => rfl
  | cons m as ih =>
    obtain ⟨n, a⟩ := m
    rw [List.map_cons, List.forall_mem_cons] at h
    have hne : name ≠ n := fun heq => String.lt_irrefl n (heq ▸ h.1)
    rw [lookup_cons_ite, if_neg hne]
    exact ih h.2

/-- Changing a member changes what a table says of its name, and of no other. The names must be
sorted, as a change stops at the first greater one. -/
theorem lookup_alter (g : Option Value → Value) (h : (ms.map Prod.fst).Pairwise (· < ·))
    (k : String) : (Table.alter name g ms).lookup k =
      if k = name then some (g (ms.lookup name)) else ms.lookup k := by
  induction ms with
  | nil => exact lookup_cons_ite _ _ _ _
  | cons m ms ih =>
    obtain ⟨n, v⟩ := m
    obtain ⟨hfirst, hrest⟩ := List.pairwise_cons.1 h
    -- The change stops at the first name that is not less, and sorted names hide no other one
    -- behind it.
    rcases Std.lt_trichotomy name n with hlt | rfl | hlt
    · have hnone : ((n, v) :: ms).lookup name = none := by
        refine lookup_eq_none_of_lt ?_
        rw [List.map_cons, List.forall_mem_cons]
        exact ⟨hlt, fun n' hn' => String.lt_trans hlt (hfirst n' hn')⟩
      rw [Table.alter_cons_lt hlt, lookup_cons_ite, hnone]
    · rw [Table.alter_cons_self, lookup_cons_ite, List.lookup_cons_self]
      by_cases hk : k = name
      · rw [if_pos hk, if_pos hk]
      · rw [if_neg hk, if_neg hk, lookup_cons_ite, if_neg hk]
    · have hne : name ≠ n := fun heq => String.lt_irrefl n (heq ▸ hlt)
      rw [Table.alter_cons_gt hlt, lookup_cons_ite, ih hrest, lookup_cons_ite _ _ _ name,
        if_neg hne, lookup_cons_ite _ _ _ k]
      by_cases hk : k = n
      · rw [if_pos hk, if_pos hk, if_neg fun heq => hne (heq.symm.trans hk)]
      · rw [if_neg hk, if_neg hk]

/-- Two changes of a member are one, the later made to what the earlier makes. -/
theorem alter_alter (g h : Option Value → Value) (ms : Table) :
    Table.alter name g (Table.alter name h ms) = Table.alter name (fun o => g (some (h o))) ms := by
  induction ms with
  | nil => exact Table.alter_cons_self
  | cons m ms ih =>
    obtain ⟨n, v⟩ := m
    rcases Std.lt_trichotomy name n with hlt | rfl | hlt
    · rw [Table.alter_cons_lt hlt, Table.alter_cons_self, Table.alter_cons_lt hlt]
    · rw [Table.alter_cons_self, Table.alter_cons_self, Table.alter_cons_self]
    · rw [Table.alter_cons_gt hlt, Table.alter_cons_gt hlt, Table.alter_cons_gt hlt, ih]

/-! ### Trees over trees -/

/-- What two trees say of one thing when the first is laid over the second. -/
def laid (upper lower : Option Value) : Option Value :=
  match upper with
  | some u => some ((lower.map u.laidOver).getD u)
  | none => lower

/-- Where the upper tree says nothing, the lower one counts. So a file counts where no variable sets
anything. -/
@[simp]
theorem laid_none_left (lower : Option Value) : laid none lower = lower := rfl

/-- Where the lower tree says nothing, the upper one counts. So a variable counts also where there
is no file. -/
@[simp]
theorem laid_none_right (upper : Option Value) : laid upper none = upper := by
  cases upper <;> rfl

/-- What is no table is not joined with anything, so a scalar of a variable stands as it is. -/
theorem laid_of_not_table (h : ∀ ms, u ≠ .table ms) (lower : Option Value) :
    laid (some u) lower = some u := by
  cases lower with
  | none => rfl
  | some l => exact congrArg some (Value.laidOver_of_not_table h)

/-- A table that is laid over anything is a table still. -/
theorem exists_laid_table (us : Table) (lower : Option Value) :
    ∃ ms, laid (some (.table us)) lower = some (.table ms) := by
  cases lower with
  | none => exact ⟨us, rfl⟩
  | some l =>
    by_cases hl : ∃ ls, l = .table ls
    · obtain ⟨ls, rfl⟩ := hl
      exact ⟨_, rfl⟩
    · exact ⟨us, congrArg some (Value.laidOver_not_table (not_exists.1 hl))⟩

/-- What joined tables say of a name is what the two say of it, joined. The names must be sorted, as
for `lookup_alter`. -/
theorem lookup_overMembers (hu : (us.map Prod.fst).Pairwise (· < ·))
    (hl : (ls.map Prod.fst).Pairwise (· < ·)) (k : String) :
    (Value.overMembers us ls).lookup k = laid (us.lookup k) (ls.lookup k) := by
  -- Along the upper table, each member of which alters one of the lower table.
  induction us generalizing ls with
  | nil => rfl
  | cons m us ih =>
    obtain ⟨name, v⟩ := m
    obtain ⟨hfirst, hrest⟩ := List.pairwise_cons.1 hu
    rw [Value.overMembers, ih hrest (sorted_alter _ hl), lookup_alter _ hl, lookup_cons_ite]
    by_cases hk : k = name
    · subst hk
      rw [if_pos rfl, if_pos rfl, lookup_eq_none_of_lt hfirst]
      rfl
    · rw [if_neg hk, if_neg hk]

namespace Value

/-- On the way along a path a tree has tables only. -/
def IsOpen : List String → Value → Prop
  | [], _ => True
  | name :: path, .table ms => ∀ v, ms.lookup name = some v → IsOpen path v
  | _ :: _, _ => False

/-- A path is followed in two parts, one behind the other. So what a section has at a path is what
the whole tree has at the longer one. -/
theorem at?_append (p q : List String) (t : Value) :
    t.at? (p ++ q) = (t.at? p).bind (at? q) := by
  induction p generalizing t with
  | nil => rfl
  | cons name p ih =>
    cases t with
    | table ms =>
      show (ms.lookup name).bind (at? (p ++ q)) = ((ms.lookup name).bind (at? p)).bind (at? q)
      rw [Option.bind_assoc]
      exact congrArg (ms.lookup name).bind (funext ih)
    | _ => rfl

/-- A path of one name is looked up in a table. -/
theorem at?_single (name : String) (ms : Table) : (table ms).at? [name] = ms.lookup name :=
  Option.bind_fun_some _

/-- Whatever a tree in order has, at whatever path, is in order. So a record that is read from a
place in the tree can count on it, too. -/
theorem Ordered.of_at? (h : t.Ordered) (hv : t.at? p = some v) : v.Ordered := by
  induction p generalizing t with
  | nil =>
    cases hv
    exact h
  | cons name p ih =>
    cases t with
    | table ms =>
      obtain ⟨w, hw, hv⟩ := Option.bind_eq_some_iff.1 hv
      exact ih (h.of_mem _ (mem_of_lookup hw)) hv
    | _ => cases hv

/-- Behind what is no table there is nothing. So a scalar ends every path that leads through it. -/
theorem at?_of_not_table (h : ∀ ms, u ≠ .table ms) : u.at? (name :: p) = none := by
  cases u with
  | table ms => exact absurd rfl (h ms)
  | _ => rfl

/-- A tree that is not open along a path has nothing at its end: somewhere on the way there is a
value that is no table, or nothing at all. -/
theorem at?_eq_none_of_not_isOpen (hclosed : ¬ u.IsOpen p) : u.at? p = none := by
  induction p generalizing u with
  | nil => exact absurd trivial hclosed
  | cons name p ih =>
    cases u with
    | table us =>
      obtain ⟨v, hv⟩ := Classical.not_forall.1 hclosed
      obtain ⟨hlookup, hv⟩ := Classical.not_imp.1 hv
      show (us.lookup name).bind (at? p) = none
      rw [hlookup]
      exact ih hv
    | _ => rfl

/-- What a tree that is laid over another says at a path: both are followed along it, and what
they say there is joined. The upper tree has to be open, since a scalar on the way hides the
lower one. -/
theorem at?_laidOver (hu : u.Ordered) (hl : l.Ordered) (hopen : u.IsOpen p) :
    (u.laidOver l).at? p = laid (u.at? p) (l.at? p) := by
  induction p generalizing u l with
  | nil => rfl
  | cons name p ih =>
    cases u with
    | table us =>
      -- Tables are joined member by member, and anything else below is replaced.
      by_cases htable : ∃ ls, l = .table ls
      · obtain ⟨ls, rfl⟩ := htable
        show ((overMembers us ls).lookup name).bind (at? p) =
          laid ((us.lookup name).bind (at? p)) ((ls.lookup name).bind (at? p))
        rw [lookup_overMembers hu.sorted hl.sorted]
        cases hupper : us.lookup name with
        | none => rfl
        | some u =>
          cases hlower : ls.lookup name with
          | none => rw [laid_none_right, Option.bind_none, laid_none_right]
          | some l =>
            exact ih (hu.of_mem _ (mem_of_lookup hupper)) (hl.of_mem _ (mem_of_lookup hlower))
              (hopen u hupper)
      · have hother := not_exists.1 htable
        rw [laidOver_not_table hother, at?_of_not_table hother, laid_none_right]
    | _ => exact absurd hopen id

/-- What is no table hides what lies behind it, in the lower tree too. This is the other case of
`at?_laidOver`. -/
theorem at?_laidOver_of_not_isOpen (hu : u.Ordered) (hl : l.Ordered) (hclosed : ¬ u.IsOpen p) :
    (u.laidOver l).at? p = none := by
  induction p generalizing u l with
  | nil => exact absurd trivial hclosed
  | cons name p ih =>
    -- Somewhere on the way the upper tree has what is no table. Up to there the two are joined.
    by_cases hupper : ∃ us, u = .table us
    · obtain ⟨us, rfl⟩ := hupper
      obtain ⟨v, hv⟩ := Classical.not_forall.1 hclosed
      obtain ⟨hlookup, hv⟩ := Classical.not_imp.1 hv
      have hordered := hu.of_mem _ (mem_of_lookup hlookup)
      by_cases htable : ∃ ls, l = .table ls
      · obtain ⟨ls, rfl⟩ := htable
        show ((overMembers us ls).lookup name).bind (at? p) = none
        rw [lookup_overMembers hu.sorted hl.sorted, hlookup]
        cases hlower : ls.lookup name with
        | none => exact at?_eq_none_of_not_isOpen hv
        | some l => exact ih hordered (hl.of_mem _ (mem_of_lookup hlower)) hv
      · rw [laidOver_not_table (not_exists.1 htable)]
        show (us.lookup name).bind (at? p) = none
        rw [hlookup]
        exact at?_eq_none_of_not_isOpen hv
    · have hother := not_exists.1 hupper
      rw [laidOver_of_not_table hother, at?_of_not_table hother]

/-- A tree is open along a path when it is laid over one that is and is so itself. It is what the
fold over the variables keeps up. -/
theorem IsOpen.laidOver (hu : u.Ordered) (hl : l.Ordered) (hupper : u.IsOpen p)
    (hlower : l.IsOpen p) : (u.laidOver l).IsOpen p := by
  induction p generalizing u l with
  | nil => trivial
  | cons name p ih =>
    -- Where both have a member, the two are joined and both are open. Else there is only one of
    -- them.
    by_cases htable : ∃ ls, l = .table ls
    · obtain ⟨ls, rfl⟩ := htable
      cases u with
      | table us =>
        intro v hv
        rw [lookup_overMembers hu.sorted hl.sorted] at hv
        cases hus : us.lookup name with
        | none =>
          rw [hus] at hv
          exact hlower v hv
        | some u =>
          cases hls : ls.lookup name with
          | none =>
            rw [hus, hls] at hv
            cases hv
            exact hupper u hus
          | some l =>
            rw [hus, hls] at hv
            cases hv
            exact ih (hu.of_mem _ (mem_of_lookup hus)) (hl.of_mem _ (mem_of_lookup hls))
              (hupper u hus) (hlower l hls)
      | _ => exact absurd hupper id
    · rw [laidOver_not_table (not_exists.1 htable)]
      exact hupper

/-! ### Trees with one value -/

/-- A tree with one value has it at its path. It is what a variable with this path says. -/
theorem at?_under (p : List String) (v : Value) : (under p v).at? p = some v := by
  induction p with
  | nil => rfl
  | cons name p ih =>
    show (List.lookup name [(name, under p v)]).bind (at? p) = some v
    rw [List.lookup_cons_self]
    exact ih

/-- On the way to its value such a tree has tables, each with one member. -/
theorem at?_under_append (p q : List String) (v : Value) :
    (under (p ++ q) v).at? p = some (under q v) := by
  rw [under, List.foldr_append]
  exact at?_under p (under q v)

/-- A tree with one value has nothing off the way to it, nor behind it when it is no table. Such a
tree is what one variable says. -/
theorem at?_under_eq_none (hv : ∀ ms, v ≠ .table ms) (h : ¬ q <+: p) :
    (under p v).at? q = none := by
  induction p generalizing q with
  | nil =>
    cases q with
    | nil => exact absurd List.nil_prefix h
    | cons k q => exact at?_of_not_table hv
  | cons name p ih =>
    cases q with
    | nil => exact absurd List.nil_prefix h
    | cons k q =>
      show (List.lookup k [(name, under p v)]).bind (at? q) = none
      rw [lookup_cons_ite]
      by_cases hk : k = name
      · rw [if_pos hk]
        exact ih fun hleads => h (List.cons_prefix_cons.2 ⟨hk, hleads⟩)
      · rw [if_neg hk]
        rfl

/-- Only behind its value such a tree is not open, so a path that does not lead on from there may be
followed. -/
theorem isOpen_under (h : p <+: q → p = q) : (under p v).IsOpen q := by
  induction p generalizing q with
  | nil =>
    cases h List.nil_prefix
    trivial
  | cons name p ih =>
    cases q with
    | nil => trivial
    | cons k q =>
      intro w hw
      rw [lookup_cons_ite] at hw
      -- The two paths go on together until one of them parts, or until the value.
      by_cases hk : k = name
      · rw [if_pos hk] at hw
        cases hw
        refine ih fun hleads => ?_
        cases h (List.cons_prefix_cons.2 ⟨hk.symm, hleads⟩)
        rfl
      · rw [if_neg hk] at hw
        cases hw

/-- Trees with one value each can be laid in any order when neither path leads into the other. The
paths part at some name, at which two members of one table are changed. -/
theorem under_comm (hpq : ¬ p <+: q) (hqp : ¬ q <+: p) (v w t : Value) :
    (under p v).laidOver ((under q w).laidOver t) =
      (under q w).laidOver ((under p v).laidOver t) := by
  induction p generalizing q t with
  | nil => exact absurd List.nil_prefix hpq
  | cons a p ih =>
    cases q with
    | nil => exact absurd List.nil_prefix hqp
    | cons b q =>
      -- What is no table is hidden either way, as if there were nothing.
      have hcomm : ∀ ms, (under (a :: p) v).laidOver ((under (b :: q) w).laidOver (.table ms)) =
          (under (b :: q) w).laidOver ((under (a :: p) v).laidOver (.table ms)) := by
        intro ms
        show Value.table (Table.alter a _ (Table.alter b _ ms)) =
          .table (Table.alter b _ (Table.alter a _ ms))
        by_cases hab : a = b
        · subst hab
          have hp : ¬ p <+: q := fun h => hpq (List.cons_prefix_cons.2 ⟨rfl, h⟩)
          have hq : ¬ q <+: p := fun h => hqp (List.cons_prefix_cons.2 ⟨rfl, h⟩)
          rw [alter_alter, alter_alter]
          refine congrArg (fun g => Value.table (Table.alter a g ms)) (funext fun o => ?_)
          cases o with
          | some t => exact congrArg id (ih hp hq t)
          | none =>
            cases p with
            | nil => exact absurd List.nil_prefix hp
            | cons c p =>
              cases q with
              | nil => exact absurd List.nil_prefix hq
              | cons d q => exact ih hp hq (.table [])
        · rw [Table.alter_comm hab]
      by_cases ht : ∃ ms, t = .table ms
      · obtain ⟨ms, rfl⟩ := ht
        exact hcomm ms
      · have ht := not_exists.1 ht
        rw [laidOver_not_table ht, laidOver_not_table ht]
        exact hcomm []

/-- A value that has no others in it. -/
def IsScalar : Value → Prop
  | .list _ | .table _ => False
  | _ => True

instance : DecidablePred IsScalar := fun v =>
  match v with
  | .list _ | .table _ => isFalse id
  | .string _ | .boolean _ | .unsigned _ | .signed _ | .real _ => isTrue trivial

/-- A scalar is no table, so nothing is joined with it. -/
theorem IsScalar.not_table (h : v.IsScalar) (ms : Table) : v ≠ .table ms := by
  rintro rfl
  exact h

end Value

/-! ### Variables -/

variable {x y : String × String} {vars env env' : Environment}

/-- The paths that variables set. -/
def paths (env : Environment) : List (List String) := env.filterMap fun x => settingPath? x.1

/-- A path is set when one of the variables sets it. -/
theorem mem_paths : p ∈ paths env ↔ ∃ x ∈ env, settingPath? x.1 = some p := List.mem_filterMap

/-- The tree of variables that are laid over one another in any order. -/
def treeOf (vars : Environment) : Value := vars.foldl layOn (.table [])

/-- The last of some variables is laid over the tree of the others. -/
theorem treeOf_append_single (vars : Environment) (x : String × String) :
    treeOf (vars ++ [x]) = layOn (treeOf vars) x := by
  rw [treeOf, List.foldl_append]
  rfl

/-- Two variables set different things: neither path leads to the other or into it. -/
def Apart (x y : String × String) : Prop :=
  ∀ p q, settingPath? x.1 = some p → settingPath? y.1 = some q → ¬ p <+: q ∧ ¬ q <+: p

/-- To be apart is a relation of both variables alike. So it can be asked of them in any order. -/
theorem Apart.symm (h : Apart x y) : Apart y x := fun p q hp hq => (h q p hq hp).symm

/-- Variables that are apart can be laid in either order: `under_comm` for two that set
something. -/
theorem Apart.comm (h : Apart x y) (t : Value) : layOn (layOn t x) y = layOn (layOn t y) x := by
  unfold layOn
  cases hp : settingPath? x.1 with
  | none => rfl
  | some p =>
    cases hq : settingPath? y.1 with
    | none => rfl
    | some q =>
      obtain ⟨hpq, hqp⟩ := h p q hp hq
      exact Value.under_comm hqp hpq _ _ t

/-- Every variable has a scalar as its value, and no two of them meet. -/
structure AreApart (env : Environment) : Prop where
  scalar : ∀ x ∈ env, ∀ p, settingPath? x.1 = some p → (Value.ofText x.2).IsScalar
  apart : env.Pairwise Apart

namespace AreApart

/-- Variables that are apart are so in any order. This is why the order in which they are given does
not count. -/
theorem perm (h : AreApart env) (hperm : env.Perm env') : AreApart env' :=
  ⟨fun x hx => h.scalar x (hperm.mem_iff.2 hx), hperm.pairwise h.apart Apart.symm⟩

/-- Some of the variables are apart when all of them are. -/
theorem sublist (h : AreApart env) (hsub : env'.Sublist env) : AreApart env' :=
  ⟨fun x hx => h.scalar x (hsub.mem hx), h.apart.sublist hsub⟩

/-- The tree of variables that are apart is the same in any order, since any two of them can be
swapped in the fold. -/
theorem treeOf_perm (h : AreApart env) (hperm : env.Perm env') : treeOf env = treeOf env' := by
  have hcomm : ∀ x ∈ env, ∀ y ∈ env, ∀ t, layOn (layOn t x) y = layOn (layOn t y) x :=
    List.Pairwise.forall_of_forall_of_flip (fun _ _ _ => rfl) (h.apart.imp Apart.comm)
      (h.apart.imp fun hxy => hxy.symm.comm)
  exact hperm.foldl_eq' hcomm _

/-- In whatever order they come, such variables say the same, so nothing depends on the sort that
the loader makes first. -/
theorem ofEnvironment_eq_treeOf (h : AreApart env) (hperm : env.Perm env') :
    ofEnvironment env = treeOf env' := by
  have hsort := (List.mergeSort_perm env fun a b => decide (a.1 ≤ b.1)).symm
  rw [ofEnvironment_eq, ← h.treeOf_perm hperm, h.treeOf_perm hsort]
  rfl

/-- Any of the variables can be the one that is laid last, which is where it is easy to see what it
says. -/
theorem exists_last (h : AreApart env) (hx : x ∈ env) :
    ∃ rest, rest.Sublist env ∧ ofEnvironment env = layOn (ofEnvironment rest) x := by
  obtain ⟨before, after, rfl⟩ := List.append_of_mem hx
  have hperm : (before ++ x :: after).Perm (before ++ after ++ [x]) :=
    List.perm_middle.trans (List.perm_append_singleton x _).symm
  have hsub : (before ++ after).Sublist (before ++ x :: after) :=
    (List.Sublist.refl before).append (List.sublist_cons_self x after)
  refine ⟨before ++ after, hsub, ?_⟩
  rw [h.ofEnvironment_eq_treeOf hperm, treeOf_append_single,
    (h.sublist hsub).ofEnvironment_eq_treeOf (.refl _)]

/-- What a variable sets is found at its path: it is laid last, and its tree is open up to its
value. -/
theorem at?_of_mem (h : AreApart env) (hx : x ∈ env) (hp : settingPath? x.1 = some p) :
    (ofEnvironment env).at? p = some (Value.ofText x.2) := by
  obtain ⟨rest, -, heq⟩ := h.exists_last hx
  obtain ⟨ms, -, hordered⟩ := ofEnvironment_ordered rest
  rw [heq, layOn, hp]
  dsimp only
  rw [Value.at?_laidOver ((ofText_ordered _).under p) hordered
    (Value.isOpen_under fun _ => rfl), Value.at?_under,
    laid_of_not_table (h.scalar x hx p hp).not_table]

/-- On the way to it there are tables, whatever else has been laid below. Variables that stand apart
cannot put a value in the way of each other. -/
theorem at?_of_below (h : AreApart env) (hx : x ∈ env) {k : String}
    (hp : settingPath? x.1 = some (q ++ k :: p)) :
    ∃ ms, (ofEnvironment env).at? q = some (.table ms) := by
  obtain ⟨rest, -, heq⟩ := h.exists_last hx
  obtain ⟨ms, -, hordered⟩ := ofEnvironment_ordered rest
  have hopen : (Value.under (q ++ k :: p) (Value.ofText x.2)).IsOpen q :=
    Value.isOpen_under fun hleads => absurd hleads.length_le (by simp)
  rw [heq, layOn, hp]
  dsimp only
  rw [Value.at?_laidOver ((ofText_ordered _).under _) hordered hopen,
    Value.at?_under_append]
  exact exists_laid_table _ _

/-- What every variable that is laid on keeps up is said of the tree of them all. Only steps with a
path have to be looked at, and only trees in order. -/
theorem ofEnvironment_rec (h : AreApart env) (P : Value → Prop) (hnil : P (.table []))
    (hstep : ∀ x ∈ env, ∀ p, settingPath? x.1 = some p → ∀ t, t.Ordered → P t →
      P ((Value.under p (Value.ofText x.2)).laidOver t)) : P (ofEnvironment env) := by
  rw [h.ofEnvironment_eq_treeOf (.refl env), treeOf]
  refine (List.foldlRecOn (motive := fun t => t.Ordered ∧ P t) env layOn
    ⟨Value.Ordered.nil, hnil⟩ ?_).2
  intro t ht x hx
  unfold layOn
  cases hp : settingPath? x.1 with
  | none => exact ht
  | some p =>
    exact ⟨((ofText_ordered _).under p).laidOver ht.1, hstep x hx p hp t ht.1 ht.2⟩

/-- Nothing is found where no variable sets anything, at the place itself or below it. -/
theorem at?_eq_none (h : AreApart env) (hne : q ≠ [])
    (hq : ∀ p ∈ paths env, ¬ q <+: p) : (ofEnvironment env).at? q = none := by
  refine h.ofEnvironment_rec (·.at? q = none) ?_ ?_
  · obtain ⟨name, q, rfl⟩ := List.exists_cons_of_ne_nil hne
    rfl
  · intro x hx p hp t ht hnone
    have hunder := (ofText_ordered x.2).under p
    by_cases hopen : (Value.under p (Value.ofText x.2)).IsOpen q
    · rw [Value.at?_laidOver hunder ht hopen, hnone, laid_none_right]
      exact Value.at?_under_eq_none (h.scalar x hx p hp).not_table (hq p (mem_paths.2 ⟨x, hx, hp⟩))
    · exact Value.at?_laidOver_of_not_isOpen hunder ht hopen

/-- The tree is open along a path into which none of the variables sets anything, except at its
end. -/
theorem isOpen (h : AreApart env) (hq : ∀ p ∈ paths env, p <+: q → p = q) :
    (ofEnvironment env).IsOpen q := by
  refine h.ofEnvironment_rec (Value.IsOpen q) ?_ ?_
  · cases q with
    | nil => trivial
    | cons name q => exact fun v hv => nomatch hv
  · intro x hx p hp t ht hopen
    have hupper := (ofText_ordered x.2).under p
    exact (Value.isOpen_under (hq p (mem_paths.2 ⟨x, hx, hp⟩))).laidOver hupper ht hopen

end AreApart

end DeviceRegistry.Settings
