import DeviceRegistry.Toml.Value

/-!
# `DeviceRegistry.Proofs.Toml.Tree`: changes of a tree at a path

While lines are read, the tree is changed at the path of the last header. Changes at one path make
one change there (`within_bind`), and a change below a path is a change at it (`within_append`). So
adding a table with all that is in it is opening the table and filling it, a line at a time. Main
statements:

* `openTable_of_addNode`, `addNode_fill`: a table that has a header.
* `within_of_addNode`: a table that is there because of the tables in it.
* `addNodes_eq_append`: what is added under new names stands behind the rest.
-/

set_option autoImplicit false

namespace DeviceRegistry.Toml.Nodes

/-- A change of the members of a table. -/
abbrev Change := Shape → Nodes → Option Nodes

/-- One change after another. -/
def andThen (f g : Change) : Change := fun shape ms => (f shape ms).bind (g shape)

/-- Adds a node under a new name. -/
def addNode (name : String) (n : Node) : Change := fun _ ms =>
  ms.alter name fun
    | none => some n
    | some _ => none

/-- Adds nodes under new names. -/
def addNodes : Nodes → Change
  | [] => fun _ ms => some ms
  | (name, n) :: r => andThen (addNode name n) (addNodes r)

/-- Adds values under new names. -/
def addValues : List (String × Value) → Change
  | [] => fun _ ms => some ms
  | (name, v) :: r => andThen (addValue [] name v) (addValues r)

/-- Values as nodes. -/
def leaves (values : List (String × Value)) : Nodes := values.map fun m => (m.1, .leaf m.2)

variable {name k : String} {n : Node} {path : List String} {shape : Shape} {ms ms' ns ns' : Nodes}
  {f g change : Change}

/-! ### Changes of a node -/

section
variable {c d : Option Node → Option Node}

/-- Two changes of the node of a name are one, if the first leaves a node there. So a table can be
made first and filled afterwards. -/
theorem alter_bind (name : String) (c d : Option Node → Option Node) (ms : Nodes) :
    (alter name c ms).bind (alter name d) =
      alter name (fun o => (c o).bind fun n => d (some n)) ms := by
  induction ms with
  | nil =>
    simp only [alter]
    cases c none with
    | none => rfl
    | some n => simp [alter]
  | cons m ms ih =>
    obtain ⟨k, n⟩ := m
    -- Both changes find the same node, since the first one keeps its place.
    by_cases hk : k = name
    · simp only [alter, if_pos hk]
      cases c (some n) with
      | none => rfl
      | some n => simp [alter, hk]
    · simp only [alter, if_neg hk, ← ih]
      cases alter name c ms with
      | none => rfl
      | some ms => simp [alter, hk]

/-- A change that does at least what another does, to the node of a name, does so to the members. It
compares opening a table with adding one. -/
theorem alter_mono (h : ∀ o n, c o = some n → d o = some n) (hms : alter name c ms = some ms') :
    alter name d ms = some ms' := by
  induction ms generalizing ms' with
  | nil =>
    obtain ⟨n, hn, rfl⟩ := Option.map_eq_some_iff.1 hms
    exact Option.map_eq_some_iff.2 ⟨n, h none n hn, rfl⟩
  | cons m ms ih =>
    obtain ⟨k, n⟩ := m
    by_cases hk : k = name
    · simp only [alter, if_pos hk] at hms ⊢
      obtain ⟨n', hn, rfl⟩ := Option.map_eq_some_iff.1 hms
      exact Option.map_eq_some_iff.2 ⟨n', h _ n' hn, rfl⟩
    · simp only [alter, if_neg hk] at hms ⊢
      obtain ⟨ms', hrest, rfl⟩ := Option.map_eq_some_iff.1 hms
      exact Option.map_eq_some_iff.2 ⟨ms', ih hrest, rfl⟩

end

/-! ### Changes at a path -/

/-- What becomes of a node when a path goes through it. -/
def through (path : List String) (change : Change) : Option Node → Option Node
  | none => (within false path change .implicit []).map (.table .implicit)
  | some (.leaf _) => none
  | some (.table shape ms) => (within false path change shape ms).map (.table shape)
  | some (.tables newest older) =>
    (within false path change .explicit newest).map fun ms => .tables ms older

/-- A path goes through the node of its first name. All changes below a path are made step by step
in this way. -/
theorem within_cons (name : String) (path : List String) (change : Change) (shape : Shape)
    (ms : Nodes) :
    within false (name :: path) change shape ms = ms.alter name (through path change) := by
  rw [within]
  rfl

/-- Two changes at a path are one change there. The nodes on the way are made by the first and found
by the second. -/
theorem within_bind (path : List String) (f g : Change) (shape : Shape) (ms : Nodes) :
    (within false path f shape ms).bind (within false path g shape) =
      within false path (andThen f g) shape ms := by
  induction path generalizing shape ms with
  | nil => rfl
  | cons name path ih =>
    have hstep : ∀ (x : Option Nodes) (shape : Shape),
        (x.map (Node.table shape)).bind (fun n => through path g (some n)) =
          (x.bind (within false path g shape)).map (Node.table shape) := by
      intro x shape
      cases x <;> rfl
    rw [within_cons, within_cons, funext (within_cons name path g shape), alter_bind]
    congr 1
    funext o
    -- No node, a value, a table, or tables of which the newest is gone into.
    rcases o with _ | ⟨_ | ⟨shape, ms⟩ | ⟨newest, older⟩⟩
    · exact (hstep _ _).trans (congrArg (Option.map (Node.table .implicit)) (ih .implicit []))
    · rfl
    · exact (hstep _ _).trans (congrArg (Option.map (Node.table shape)) (ih shape ms))
    · show ((within false path f .explicit newest).map _).bind _ = Option.map _ _
      rw [← ih]
      cases within false path f .explicit newest <;> rfl

/-- A change below a path is a change at it, made to one member. So adding a table inside another is
a change of the outer one. -/
theorem within_append (path : List String) (k : String) (change : Change) :
    within false (path ++ [k]) change = within false path (within false [k] change) := by
  induction path with
  | nil => rfl
  | cons name path ih =>
    funext shape ms
    have hthrough : through (path ++ [k]) change = through path (within false [k] change) := by
      funext o
      rcases o with _ | ⟨_ | _ | _⟩ <;> simp only [through, ih]
    rw [List.cons_append, within_cons, within_cons, hthrough]

/-- A change that does at least what another does, at a path, does so to the tree. -/
theorem within_mono (h : ∀ shape ms ms', f shape ms = some ms' → g shape ms = some ms')
    (hms : within false path f shape ms = some ms') : within false path g shape ms = some ms' := by
  induction path generalizing shape ms ms' with
  | nil => exact h shape ms ms' hms
  | cons name path ih =>
    rw [within_cons] at hms ⊢
    refine alter_mono ?_ hms
    intro o n hn
    rcases o with _ | ⟨_ | ⟨shape, ms⟩ | ⟨newest, older⟩⟩
    case some.leaf => cases hn
    all_goals
      obtain ⟨ms', hms', rfl⟩ := Option.map_eq_some_iff.1 hn
      exact Option.map_eq_some_iff.2 ⟨ms', ih hms', rfl⟩

/-! ### Adding tables -/

/-- A table with a header is opened, since opening a table that is not there is adding an empty
one. -/
theorem openTable_of_addNode
    (h : within false path (addNode name (.table .explicit [])) .explicit ms = some ms') :
    openTable path name ms = some ms' := by
  refine within_mono (fun shape ms ms' => alter_mono ?_) h
  intro o n hn
  cases o with
  | none => exact hn
  | some _ => cases hn

/-- A table that was added is filled: to add it and then change it is to add it changed. -/
theorem addNode_fill (h : change shape ns = some ns') :
    andThen (addNode name (.table shape ns)) (within false [name] change) =
      addNode name (.table shape ns') := by
  funext shape' ms
  rw [andThen, addNode, addNode, funext (within_cons name [] change shape'), alter_bind]
  congr 1
  funext o
  cases o with
  | none =>
    show Option.map _ (change shape ns) = _
    rw [h]
    rfl
  | some _ => rfl

/-- A table that is there because of what is in it needs no header: the change makes it on its
way. -/
theorem within_of_addNode (h : change .implicit [] = some ns)
    (hms : addNode name (.table .implicit ns) shape ms = some ms') :
    within false [name] change shape ms = some ms' := by
  rw [within_cons]
  refine alter_mono ?_ hms
  intro o n hn
  cases o with
  | none =>
    cases hn
    show Option.map _ (change .implicit []) = _
    rw [h]
    rfl
  | some _ => cases hn

/-! ### Adding under new names -/

/-- A node under a new name is put behind the others, so tables stand in the tree in the order in
which they are written. -/
theorem addNode_eq_append (h : name ∉ ms.map Prod.fst) :
    addNode name n shape ms = some (ms ++ [(name, n)]) := by
  induction ms with
  | nil => rfl
  | cons m ms ih =>
    simp only [List.map_cons, List.mem_cons, not_or] at h
    have hrest := ih h.2
    simp only [addNode] at hrest
    simp only [addNode, alter, if_neg (Ne.symm h.1), hrest]
    rfl

/-- What is added under new names stands behind the rest, in its own order. The names have to differ
among themselves, too, as each one is added to those before it. -/
theorem addNodes_eq_append (h : ((ms ++ ns).map Prod.fst).Nodup) :
    addNodes ns shape ms = some (ms ++ ns) := by
  induction ns generalizing ms with
  | nil => simp [addNodes]
  | cons m ns ih =>
    obtain ⟨name, n⟩ := m
    have hnew : name ∉ ms.map Prod.fst := by
      rw [List.map_append, List.nodup_append] at h
      intro hmem
      exact h.2.2 name hmem name List.mem_cons_self rfl
    have hrest : ms ++ (name, n) :: ns = (ms ++ [(name, n)]) ++ ns := by simp
    rw [hrest] at h ⊢
    rw [addNodes, andThen, addNode_eq_append hnew]
    exact ih h

/-- Values can be added to any table that dotted keys have not made, as leaves under their names. -/
theorem addValues_eq_addNodes (values : List (String × Value)) (h : shape ≠ .dotted) :
    addValues values shape ms = addNodes (leaves values) shape ms := by
  induction values generalizing ms with
  | nil => rfl
  | cons m values ih =>
    obtain ⟨name, v⟩ := m
    have hfirst : addValue [] name v shape ms = addNode name (.leaf v) shape ms := by
      show (if _ then _ else _) = _
      rw [if_neg (by simpa using h)]
      rfl
    show (addValue [] name v shape ms).bind _ = (addNode name (.leaf v) shape ms).bind _
    rw [hfirst]
    exact congrArg _ (funext fun ms => ih)

end DeviceRegistry.Toml.Nodes
