import DeviceRegistry.Proofs.Settings.Layers
import DeviceRegistry.Proofs.Steps
import DeviceRegistry.Settings.Document

/-!
# `DeviceRegistry.Proofs.Settings.Orderless`: the order of members does not matter

The members of a tree stand in the order of their names, those of a written file in the order of
the fields. As fields can be set in any order (`Record.IsOrderless`), a record is decoded from a
file as if its members were set one after the other (`Record.decoder_of_members`): one that is there
sets its field, and one that is left out leaves it as it is. Main statements:

* `ofTomlMembers_perm`: the tree of a file has the members of the file.
* `setMembers_perm`: members are decoded alike in any order.
* `setMembers_given`, `setMembers_present`: what a member of a file does.
-/

set_option autoImplicit false

namespace DeviceRegistry.Settings

variable {name : String} {ms ns : Table} {members : List (String × Toml.Value)}

/-! ### Trees of what is written -/

/-- Members of a file as members of a tree, in the order of the file. -/
def asTable (members : List (String × Toml.Value)) : Table :=
  members.map fun m => (m.1, Value.ofToml m.2)

/-- Turning the members of a file into those of a tree keeps their names, in the same order. -/
theorem map_fst_asTable (members : List (String × Toml.Value)) :
    (asTable members).map Prod.fst = members.map Prod.fst := by
  rw [asTable, List.map_map]
  rfl

/-- A new member is put somewhere among the others, which is the same as in front up to order. -/
theorem alter_perm (g : Option Value → Value) (h : name ∉ ms.map Prod.fst) :
    (Table.alter name g ms).Perm ((name, g none) :: ms) := by
  induction ms with
  | nil => exact .refl _
  | cons m ms ih =>
    obtain ⟨k, v⟩ := m
    simp only [List.map_cons, List.mem_cons, not_or] at h
    rcases Std.lt_trichotomy name k with hlt | rfl | hlt
    · rw [Table.alter_cons_lt hlt]
    · exact absurd rfl h.1
    · rw [Table.alter_cons_gt hlt]
      exact ((ih h.2).cons (k, v)).trans (.swap _ _ _)

/-- The tree of a file has the members of the file, at their places. The names of a file that has
been read are all different, so none of them is lost. -/
theorem ofTomlMembers_perm (h : (members.map Prod.fst).Nodup) :
    (Value.ofTomlMembers members).Perm (asTable members) := by
  induction members with
  | nil => exact .refl _
  | cons m members ih =>
    obtain ⟨name, v⟩ := m
    obtain ⟨hnew, hrest⟩ := List.nodup_cons.1 h
    have hperm := ih hrest
    have hname : name ∉ (Value.ofTomlMembers members).map Prod.fst := by
      rwa [(hperm.map Prod.fst).mem_iff, map_fst_asTable]
    rw [Value.ofTomlMembers]
    exact (alter_perm _ hname).trans (hperm.cons _)

/-- Members that are in order in the file stay where they are. The profiles of a written file
are. -/
theorem ofTomlMembers_of_sorted (h : (members.map Prod.fst).Pairwise (· < ·)) :
    Value.ofTomlMembers members = asTable members := by
  induction members with
  | nil => rfl
  | cons m members ih =>
    obtain ⟨name, v⟩ := m
    obtain ⟨hfirst, hrest⟩ := List.pairwise_cons.1 h
    rw [Value.ofTomlMembers, ih hrest]
    cases members with
    | nil => rfl
    | cons m members => exact Table.alter_cons_lt (hfirst m.1 List.mem_cons_self)

/-! ### Records -/

section

variable {α ρ : Type} {fields : List (Field ρ)} {r x : ρ}

/-- Two fields can be set one after the other either way. -/
def Field.Commutes (f g : Field ρ) : Prop :=
  ∀ v w r x, (f.set v r >>= g.set w) = .ok x → (g.set w r >>= f.set v) = .ok x

/-- Fields that set different components commute, whatever their decoders: each decoder looks at its
own value only. -/
theorem Field.of_commutes {β : Type} {n k : String} {m l : Bool} {d : Decoder α} {e : Decoder β}
    {set : α → ρ → ρ} {put : β → ρ → ρ} (h : ∀ a b r, put b (set a r) = set a (put b r)) :
    (Field.of n m d set).Commutes (Field.of k l e put) := by
  intro v w r x hx
  obtain ⟨r₁, hfirst, hsecond⟩ := except_bind_eq_ok.1 hx
  obtain ⟨a, ha, rfl⟩ := except_map_eq_ok.1 hfirst
  obtain ⟨b, hb, rfl⟩ := except_map_eq_ok.1 hsecond
  rw [h]
  show ((e w).map _ >>= fun r => (d v).map _) = _
  rw [ha, hb]
  rfl

/-- The fields of a record can be set in any order. -/
def Record.IsOrderless (d : Record ρ) : Prop :=
  ∀ f ∈ d.fields, ∀ g ∈ d.fields, f.name ≠ g.name → f.Commutes g

/-- Whether fields can be set in any order is checked for each pair once. -/
theorem Record.isOrderless_of_pairwise {d : Record ρ}
    (h : d.fields.Pairwise fun f g => f.Commutes g ∧ g.Commutes f) : d.IsOrderless :=
  List.Pairwise.forall_of_forall_of_flip (fun _ _ hne => absurd rfl hne)
    (h.imp fun hboth _ => hboth.1) (h.imp fun hboth _ => hboth.2)

/-- The first member decides what the others start from: the record that its field leaves, or the
same record when there is no such field. -/
theorem setMembers_cons_eq_ok {v : Value} :
    Record.setMembers fields ((name, v) :: ms) r = .ok x ↔
      match fields.find? fun f => f.name = name with
      | some f => ∃ r₁, f.set v r = .ok r₁ ∧ Record.setMembers fields ms r₁ = .ok x
      | none => Record.setMembers fields ms r = .ok x := by
  rw [Record.setMembers]
  cases fields.find? fun f => f.name = name with
  | none => exact Iff.rfl
  | some f =>
    refine except_bind_eq_ok.trans ?_
    simp only [below, except_mapError_eq_ok]

/-- Members are decoded alike in any order. The induction is on the permutation, where a swap of two
members is a swap of their fields. -/
theorem setMembers_perm
    (hfields : ∀ f ∈ fields, ∀ g ∈ fields, f.name ≠ g.name → f.Commutes g)
    (hperm : ms.Perm ns) (hnames : (ms.map Prod.fst).Nodup)
    (h : Record.setMembers fields ms r = .ok x) : Record.setMembers fields ns r = .ok x := by
  induction hperm generalizing r with
  | nil => exact h
  | @cons m ms ns hperm ih =>
    obtain ⟨name, v⟩ := m
    have hrest := (List.nodup_cons.1 hnames).2
    rw [setMembers_cons_eq_ok] at h ⊢
    cases hf : fields.find? fun f => f.name = name with
    | none =>
      rw [hf] at h
      exact ih hrest h
    | some f =>
      rw [hf] at h
      obtain ⟨r₁, hset, h⟩ := h
      exact ⟨r₁, hset, ih hrest h⟩
  | swap m m' ms =>
    obtain ⟨name, v⟩ := m
    obtain ⟨name', v'⟩ := m'
    have hne : name' ≠ name := by
      intro heq
      simp [heq] at hnames
    -- Either member may have no field. When both have one, the fields are not the same.
    rw [setMembers_cons_eq_ok] at h ⊢
    simp only [setMembers_cons_eq_ok] at h ⊢
    cases hf : fields.find? fun f => f.name = name with
    | none =>
      cases hg : fields.find? fun f => f.name = name' with
      | none => simpa only [hf, hg] using h
      | some g => simpa only [hf, hg] using h
    | some f =>
      cases hg : fields.find? fun f => f.name = name' with
      | none => simpa only [hf, hg] using h
      | some g =>
        simp only [hf, hg] at h ⊢
        obtain ⟨r₁, hfirst, r₂, hsecond, hx⟩ := h
        have hfname : f.name = name := by simpa using List.find?_some hf
        have hgname : g.name = name' := by simpa using List.find?_some hg
        have hcommutes := hfields g (List.mem_of_find?_eq_some hg) f
          (List.mem_of_find?_eq_some hf) (by rwa [hfname, hgname])
        have hboth : (g.set v' r >>= f.set v) = .ok r₂ := by
          rw [hfirst]
          exact hsecond
        obtain ⟨r₁', hfirst', hsecond'⟩ := except_bind_eq_ok.1 (hcommutes _ _ _ _ hboth)
        exact ⟨r₁', hfirst', r₂, hsecond', hx⟩
  | trans hperm _ ih ih' =>
    exact ih' ((hperm.map Prod.fst).nodup_iff.1 hnames) (ih hnames h)

/-- A table of a file is decoded as its members are in the order of the file. The reader of written
settings goes through them in that order. -/
theorem Record.decoder_of_members {d : Record ρ} (hd : d.IsOrderless)
    (hnames : (members.map Prod.fst).Nodup)
    (hrequired : ∀ name ∈ d.required, name ∈ members.map Prod.fst)
    (h : Record.setMembers d.fields (asTable members) d.blank = .ok x) :
    d.decoder (Value.ofToml (.table members)) = .ok x := by
  have hperm := ofTomlMembers_perm hnames
  have hset := setMembers_perm hd hperm.symm (by rwa [map_fst_asTable]) h
  -- What the record requires is among the members, in whatever order.
  have hfind : (d.required.find? fun name =>
      ((Value.ofTomlMembers members).lookup name).isNone) = none := by
    rw [List.find?_eq_none]
    intro name hname
    have hmem : name ∈ (Value.ofTomlMembers members).map Prod.fst := by
      rw [(hperm.map Prod.fst).mem_iff, map_fst_asTable]
      exact hrequired name hname
    obtain ⟨m, hm, rfl⟩ := List.mem_map.1 hmem
    rw [Option.isNone_iff_eq_none, List.lookup_eq_none_iff]
    intro hnone
    simpa using hnone m hm
  rw [Value.ofToml]
  show (Record.setMembers d.fields (Value.ofTomlMembers members) d.blank >>= fun r => _) = _
  rw [hset, except_bind_ok, hfind]
  rfl

/-- A member that is decoded sets its field and is done with. One step of the proof that a written
record is read back. -/
theorem setMembers_given {mayEnd : Bool} {d : Decoder α} {set : α → ρ → ρ} {v : Toml.Value} {a : α}
    (hfind : (fields.find? fun f => f.name = name) = some (.of name mayEnd d set))
    (hread : d (Value.ofToml v) = .ok a) :
    Record.setMembers fields (asTable ((name, v) :: members)) r =
      Record.setMembers fields (asTable members) (set a r) := by
  show Record.setMembers fields ((name, Value.ofToml v) :: asTable members) r = _
  rw [Record.setMembers, hfind]
  show (below name ((d (Value.ofToml v)).map fun a => set a r) >>= _) = _
  rw [hread]
  rfl

/-- A member that is left out leaves its field as it is, so it must be none already. With the lemma
before, both kinds of members of a written record are covered. -/
theorem setMembers_present {mayEnd : Bool} {d : Decoder α} {set : Option α → ρ → ρ}
    {write : α → Toml.Value} (o : Option α)
    (hfind : (fields.find? fun f => f.name = name) = some (.of name mayEnd (.optional d) set))
    (hread : ∀ a ∈ o, d (Value.ofToml (write a)) = .ok a) (hnone : set none r = r) :
    Record.setMembers fields (asTable (present name (o.map write) ++ members)) r =
      Record.setMembers fields (asTable members) (set o r) := by
  cases o with
  | none =>
    rw [hnone]
    rfl
  | some a =>
    have hoptional : Decoder.optional d (Value.ofToml (write a)) = .ok (some a) := by
      rw [Decoder.optional, hread a rfl]
      rfl
    exact setMembers_given hfind hoptional

end

end DeviceRegistry.Settings
