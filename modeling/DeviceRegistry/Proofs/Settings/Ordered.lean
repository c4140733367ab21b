import DeviceRegistry.Proofs.Settings.Layers
import DeviceRegistry.Proofs.Steps
import DeviceRegistry.Settings.Basic

/-!
# `DeviceRegistry.Proofs.Settings.Ordered`: trees of settings are in order

Wherever a tree comes from, the members of its tables stand in the order of their names, each name
once (`Value.Ordered`): in files, in variables, and when trees are laid over one another. So do the
profiles of settings that have been loaded, and there is a default profile (`Loadable`). Main
statements:

* `Value.Ordered.laidOver`: trees in order may be laid over one another.
* `ofEnvironment_ordered`, `ofFile_ordered`: the trees of variables and files.
* `load_loadable`: what is loaded.
-/

set_option autoImplicit false

namespace DeviceRegistry.Settings

variable {name k : String} {v w : Value} {ms ns us ls : Table} {s r : List Char} {fuel : Nat}

/-! ### Trees in order -/

/-- The tables of a tree have their members in the order of their names. -/
inductive Value.Ordered : Value → Prop
  | table {ms : Table} (sorted : (ms.map Prod.fst).Pairwise (· < ·))
    (below : ∀ m ∈ ms, Ordered m.2) : Ordered (.table ms)
  | other {v : Value} (scalar : ∀ ms, v ≠ .table ms) : Ordered v

namespace Value.Ordered

/-- The names of a table in order are sorted. So no name stands in it twice. -/
theorem sorted (h : (Value.table ms).Ordered) : (ms.map Prod.fst).Pairwise (· < ·) := by
  cases h with
  | table sorted _ => exact sorted
  | other scalar => exact absurd rfl (scalar ms)

/-- What a table in order has below its names is in order, too. -/
theorem of_mem (h : (Value.table ms).Ordered) : ∀ m ∈ ms, m.2.Ordered := by
  cases h with
  | table _ below => exact below
  | other scalar => exact absurd rfl (scalar ms)

/-- The empty table is in order. Trees of files and variables start from it. -/
theorem nil : (Value.table []).Ordered := .table .nil (fun _ hm => nomatch hm)

end Value.Ordered

/-- The members of a changed table are those there were, and the one that was changed or added. So
what holds of all members is kept when it holds of this one. -/
theorem mem_alter {g : Option Value → Value} {m : String × Value}
    (h : m ∈ Table.alter name g ms) :
    m ∈ ms ∨ m.1 = name ∧ ∃ o : Option Value, (∀ v ∈ o, (name, v) ∈ ms) ∧ m.2 = g o := by
  induction ms with
  | nil =>
    rw [Table.alter, List.mem_singleton] at h
    subst h
    exact .inr ⟨rfl, none, by simp, rfl⟩
  | cons m' ms ih =>
    obtain ⟨k, v⟩ := m'
    -- In front of the first greater name, in place of the same one, or further on.
    rcases Std.lt_trichotomy name k with hlt | rfl | hlt
    · rw [Table.alter_cons_lt hlt, List.mem_cons] at h
      rcases h with rfl | h
      · exact .inr ⟨rfl, none, by simp, rfl⟩
      · exact .inl h
    · rw [Table.alter_cons_self, List.mem_cons] at h
      rcases h with rfl | h
      · exact .inr ⟨rfl, some v, by simp, rfl⟩
      · exact .inl (List.mem_cons_of_mem _ h)
    · rw [Table.alter_cons_gt hlt, List.mem_cons] at h
      rcases h with rfl | h
      · exact .inl List.mem_cons_self
      · rcases ih h with hmem | ⟨hname, o, ho, hvalue⟩
        · exact .inl (List.mem_cons_of_mem _ hmem)
        · exact .inr ⟨hname, o, fun v hv => List.mem_cons_of_mem _ (ho v hv), hvalue⟩

/-- A member is put at its place: the names stay sorted, whether it was there or not. Tables are
maps by this order, and loading relies on it for the names of profiles. -/
theorem sorted_alter (g : Option Value → Value) (h : (ms.map Prod.fst).Pairwise (· < ·)) :
    ((Table.alter name g ms).map Prod.fst).Pairwise (· < ·) := by
  induction ms with
  | nil => exact List.pairwise_singleton _ _
  | cons m ms ih =>
    obtain ⟨k, v⟩ := m
    rw [List.map_cons, List.pairwise_cons] at h
    -- The name is put where it is less than all that follows and greater than all that comes
    -- before.
    rcases Std.lt_trichotomy name k with hlt | rfl | hlt
    · rw [Table.alter_cons_lt hlt, List.map_cons, List.map_cons, List.pairwise_cons,
        List.pairwise_cons]
      refine ⟨?_, h⟩
      intro n hn
      rcases List.mem_cons.1 hn with rfl | hn
      · exact hlt
      · exact String.lt_trans hlt (h.1 n hn)
    · rw [Table.alter_cons_self, List.map_cons, List.pairwise_cons]
      exact h
    · rw [Table.alter_cons_gt hlt, List.map_cons, List.pairwise_cons]
      refine ⟨?_, ih h.2⟩
      intro n hn
      obtain ⟨m, hm, rfl⟩ := List.mem_map.1 hn
      rcases mem_alter hm with hm | ⟨hname, -⟩
      · exact h.1 _ (List.mem_map.2 ⟨m, hm, rfl⟩)
      · rwa [hname]

namespace Value.Ordered

/-- A change at a name keeps a table in order if it makes something in order of what was there. -/
theorem alter {g : Option Value → Value} (h : (Value.table ms).Ordered)
    (hg : ∀ o : Option Value, (∀ v ∈ o, v.Ordered) → (g o).Ordered) :
    (Value.table (Table.alter name g ms)).Ordered := by
  refine .table (sorted_alter g h.sorted) ?_
  intro m hm
  rcases mem_alter hm with hm | ⟨-, o, ho, hvalue⟩
  · exact h.of_mem m hm
  · rw [hvalue]
    exact hg o fun v hv => h.of_mem _ (ho v hv)

/-- Trees in order may be laid over one another. The induction is on the upper tree, each member of
which alters the lower one. -/
theorem laidOver {upper lower : Value} (hu : upper.Ordered) (hl : lower.Ordered) :
    (upper.laidOver lower).Ordered := by
  induction hu generalizing lower with
  | other scalar =>
    rw [laidOver_of_not_table scalar]
    exact .other scalar
  | @table us sorted below ih =>
    cases hl with
    | other scalar =>
      rw [laidOver_not_table scalar]
      exact .table sorted below
    | @table ls hsorted hbelow =>
      show (Value.table (overMembers us ls)).Ordered
      have hlower : (Value.table ls).Ordered := .table hsorted hbelow
      clear hsorted hbelow sorted
      -- Each member of the upper table alters one of the lower table.
      induction us generalizing ls with
      | nil => exact hlower
      | cons m us ihus =>
        obtain ⟨name, v⟩ := m
        have hv : v.Ordered := below (name, v) List.mem_cons_self
        refine ihus (fun m hm => below m (List.mem_cons_of_mem _ hm))
          (fun m hm => ih m (List.mem_cons_of_mem _ hm)) (hlower.alter ?_)
        intro o ho
        cases o with
        | none => exact hv
        | some w => exact ih (name, v) List.mem_cons_self (ho w rfl)

/-- A tree in order may be put below a path, since each table on the way has one member only. -/
theorem under (h : v.Ordered) (path : List String) : (Value.under path v).Ordered := by
  induction path with
  | nil => exact h
  | cons name path ih =>
    refine .table (List.pairwise_singleton _ _) ?_
    intro m hm
    cases List.mem_singleton.1 hm
    exact ih

end Value.Ordered

/-! ### Files -/

section

open Value

mutual

/-- The tree of a value of a file is in order, in whatever order the file has its members: they are
put at their places one by one. -/
theorem ofToml_ordered : (v : Toml.Value) → (ofToml v).Ordered
  | .string _ | .integer _ | .real _ | .boolean _ | .array _ => by
    rw [ofToml]
    exact .other fun _ => Value.noConfusion
  | .datetime text => by
    rw [ofToml]
    exact Value.Ordered.under (.other fun _ => Value.noConfusion) [datetimeMember]
  | .table members => by
    rw [ofToml]
    exact ofTomlMembers_ordered members

/-- The members of a table of a file are in order, the first of two of one name being kept. -/
theorem ofTomlMembers_ordered :
    (members : List (String × Toml.Value)) → (Value.table (ofTomlMembers members)).Ordered
  | [] => Value.Ordered.nil
  | (_, v) :: r => (ofTomlMembers_ordered r).alter fun _ _ => ofToml_ordered v

end

/-- The tree of a file is a table in order. When there is no file, it is the empty one. -/
theorem ofFile_ordered {file : Option String} {lower : Value} (h : ofFile file = .ok lower) :
    ∃ ms, lower = .table ms ∧ lower.Ordered := by
  unfold ofFile at h
  split at h
  · cases h
    exact ⟨[], rfl, Value.Ordered.nil⟩
  · split at h
    · cases h
      exact ⟨_, rfl, ofTomlMembers_ordered _⟩
    · cases h

end

/-! ### Variables -/

section

open Value

/-- What is read of one member of a table in a variable is in order when its items are. -/
theorem readMember_ordered {item : Toml.Reader Value}
    (hitem : ∀ s v r, item s = some (v, r) → v.Ordered)
    (hread : readMember item s = some ((name, v), r)) : v.Ordered := by
  obtain ⟨⟨_, r₁⟩, -, hvalue⟩ := Option.bind_eq_some_iff.1 hread
  dsimp only at hvalue
  split at hvalue
  · obtain ⟨⟨v', r₂⟩, hv, hresult⟩ := Option.bind_eq_some_iff.1 hvalue
    cases hresult
    exact hitem _ _ _ hv
  · cases hvalue

/-- The members of a table are put at their places as they are read, whatever their order in the
text, so the table stays in order until it is closed. -/
theorem readMembers_ordered {item : Toml.Reader Value}
    (hitem : ∀ s v r, item s = some (v, r) → v.Ordered) (h : (Value.table ms).Ordered)
    (hread : readMembers item fuel ms s = some (ns, r)) : (Value.table ns).Ordered := by
  -- What has been read so far is a table in order, and each member is put at its place there.
  induction fuel generalizing ms s with
  | zero => cases hread
  | succ fuel ih =>
    unfold readMembers at hread
    split at hread
    · cases hread
    · cases hread
      exact h
    · rename_i hfuel _
      cases hfuel
      obtain ⟨⟨⟨name, v⟩, r₁⟩, hmember, hrest⟩ := Option.bind_eq_some_iff.1 hread
      have hv := readMember_ordered hitem hmember
      have hnext : (Value.table (Table.alter name (fun _ => v) _)).Ordered := h.alter fun _ _ => hv
      dsimp only at hrest
      split at hrest
      · exact ih hnext hrest
      · cases hrest
        exact hnext
      · cases hrest

/-- A word of a variable is a scalar, never a table, and so there is no order to be kept in it.
Tables in variables are read by the readers of brackets. -/
theorem ofWord_ordered (s : List Char) : (ofWord s).Ordered := by
  refine .other fun ms h => ?_
  unfold ofWord at h
  -- A number, an integer, a truth value or the word itself.
  cases hreal : real? s with
  | some v =>
    rw [hreal] at h
    obtain rfl : v = .table ms := h
    unfold real? at hreal
    split at hreal
    · obtain ⟨x, -, hx⟩ := Option.map_eq_some_iff.1 hreal
      cases hx
    · cases hreal
  | none =>
    rw [hreal] at h
    cases hinteger : integer? s with
    | some v =>
      rw [hinteger] at h
      obtain rfl : v = .table ms := h
      obtain ⟨n, -, hn⟩ := Option.bind_eq_some_iff.1 hinteger
      split at hn
      · cases hn
      · split at hn <;> cases hn
    | none =>
      rw [hinteger] at h
      cases h

/-- What a text says is in order, also when it says a table. The induction is on the fuel, since
tables and lists are read within one another. -/
theorem readText_ordered (h : readText fuel s = some (v, r)) : v.Ordered := by
  induction fuel generalizing s v r with
  | zero => cases h
  | succ fuel ih =>
    obtain ⟨⟨w, r'⟩, hvalue, hw⟩ := Option.map_eq_some_iff.1 h
    cases hw
    -- Only two kinds of texts make trees of trees, a list and a table. A list is no table, whatever
    -- is in it.
    split at hvalue
    case h_3 =>
      obtain ⟨⟨ms, r₁⟩, hmembers, hms⟩ := Option.map_eq_some_iff.1 hvalue
      cases hms
      exact readMembers_ordered (fun _ _ _ h => ih h) Value.Ordered.nil hmembers
    case h_8 =>
      cases hvalue
      exact ofWord_ordered _
    case h_1 | h_2 | h_6 =>
      cases hvalue
      exact .other fun _ => Value.noConfusion
    case h_7 => cases hvalue
    case h_4 | h_5 =>
      obtain ⟨⟨_, r₁⟩, -, hv⟩ := Option.map_eq_some_iff.1 hvalue
      cases hv
      exact .other fun _ => Value.noConfusion

/-- The text of a variable is in order: it is what it says, or else the text itself. -/
theorem ofText_ordered (s : String) : (ofText s).Ordered := by
  unfold ofText
  split
  · rename_i h
    exact readText_ordered h
  · exact .other fun _ => Value.noConfusion

end

/-- The tree of the variables is a table in order. The invariant is on the fold: what each variable
lays over the tree is a table in order itself. -/
theorem ofEnvironment_ordered (env : Environment) :
    ∃ ms, ofEnvironment env = .table ms ∧ (ofEnvironment env).Ordered := by
  -- Each variable that is a setting lays a table over the tree.
  have hfold : ∀ (l : Environment) (lower : Value), (∃ ms, lower = .table ms ∧ lower.Ordered) →
      ∃ ms, l.foldl layOn lower = .table ms ∧ (l.foldl layOn lower).Ordered := by
    intro l
    induction l with
    | nil => exact fun _ h => h
    | cons x l ih =>
      intro lower h
      refine ih _ ?_
      unfold layOn
      cases hpath : settingPath? x.1 with
      | none => exact h
      | some path =>
        obtain ⟨ms, rfl, hlower⟩ := h
        obtain ⟨us, hus⟩ := exists_under (settingPath?_ne_nil hpath) (Value.ofText x.2)
        have hover := ((ofText_ordered x.2).under path).laidOver hlower
        dsimp only
        rw [hus] at hover ⊢
        exact ⟨_, rfl, hover⟩
  rw [ofEnvironment_eq]
  exact hfold _ _ ⟨[], rfl, Value.Ordered.nil⟩

/-! ### Settings that can be loaded -/

/-- Settings as they are when they have been loaded: there is a default profile, and the profiles
stand in the order of their names. -/
structure Loadable (s : Settings) : Prop where
  hasDefault : s.defaultProfile.isSome = true
  sorted : (s.profiles.map Prod.fst).Pairwise (· < ·)

section

variable {α ρ : Type}

/-- What every field keeps up, with values of some kind, is kept up by all members. An invariant of
single fields becomes one of the whole record. -/
theorem setMembers_invariant {fields : List (Field ρ)} {P : ρ → Prop} {Q : Value → Prop}
    (hset : ∀ f ∈ fields, ∀ v r r', Q v → P r → f.set v r = .ok r' → P r') {r r' : ρ}
    (hms : ∀ m ∈ ms, Q m.2) (hr : P r) (h : Record.setMembers fields ms r = .ok r') : P r' := by
  induction ms generalizing r with
  | nil =>
    cases h
    exact hr
  | cons m ms ih =>
    obtain ⟨name, v⟩ := m
    obtain ⟨hv, hrest⟩ := List.forall_mem_cons.1 hms
    unfold Record.setMembers at h
    split at h
    · rename_i f hfind
      obtain ⟨r₁, hfirst, h⟩ := except_bind_eq_ok.1 h
      have hr₁ := hset f (List.mem_of_find?_eq_some hfind) v r r₁ hv hr
        (except_mapError_eq_ok.1 hfirst)
      exact ih hrest hr₁ h
    · exact ih hrest hr h

/-- Members are decoded one by one, in order, so what is decoded has the names of the table. For
profiles this means that they are in order, with no name twice. -/
theorem members_names {d : Decoder α} {l : List (String × α)}
    (h : Decoder.members d (.table ms) = .ok l) : l.map Prod.fst = ms.map Prod.fst := by
  unfold Decoder.members at h
  dsimp only at h
  induction ms generalizing l with
  | nil =>
    cases h
    rfl
  | cons m ms ih =>
    rw [List.mapM_cons] at h
    obtain ⟨a, hfirst, h⟩ := except_bind_eq_ok.1 h
    obtain ⟨l', hrest, h⟩ := except_bind_eq_ok.1 h
    obtain ⟨b, -, hb⟩ := except_bind_eq_ok.1 hfirst
    cases h
    cases hb
    rw [List.map_cons, List.map_cons, ih hrest]

end

/-- What is loaded has a default profile, and its profiles in order: the decoder is built so that no
member takes the default away, and the table of profiles is in order. -/
theorem load_loadable {file : Option String} {env : Environment} {s : Settings}
    (h : load file env = .ok s) : s.Loadable := by
  obtain ⟨lower, hlower, h⟩ := except_bind_eq_ok.1 h
  rw [except_mapError_eq_ok] at h
  obtain ⟨ls, rfl, hls⟩ := ofFile_ordered hlower
  obtain ⟨us, hus, hordered⟩ := ofEnvironment_ordered env
  rw [hus] at h hordered
  have htree : (Value.table (Value.overMembers us ls)).Ordered := hordered.laidOver hls
  obtain ⟨s', hset, hs⟩ := except_bind_eq_ok.1 h
  cases hs
  -- Each field is set to what keeps this up, and the blank settings have it.
  refine setMembers_invariant (P := Loadable) (Q := Value.Ordered) ?_ htree.of_mem ?_ hset
  · intro f hf v r r' hv hr hfield
    simp only [record, List.mem_cons, List.not_mem_nil, or_false] at hf
    rcases hf with rfl | rfl | rfl | rfl
    case inl =>
      obtain ⟨a, ha, rfl⟩ := except_map_eq_ok.1 hfield
      obtain ⟨name, -, rfl⟩ := except_map_eq_ok.1 ha
      exact ⟨rfl, hr.sorted⟩
    case inr.inl | inr.inr.inl =>
      obtain ⟨a, -, rfl⟩ := except_map_eq_ok.1 hfield
      exact ⟨hr.hasDefault, hr.sorted⟩
    case inr.inr.inr =>
      obtain ⟨profiles, hprofiles, rfl⟩ := except_map_eq_ok.1 hfield
      refine ⟨hr.hasDefault, ?_⟩
      cases v with
      | table ms =>
        show (profiles.map Prod.fst).Pairwise (· < ·)
        rw [members_names hprofiles]
        exact hv.sorted
      | _ => cases hprofiles
  · exact ⟨rfl, .nil⟩

end DeviceRegistry.Settings
