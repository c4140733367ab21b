import DeviceRegistry.Proofs.Settings.Places

/-!
# `DeviceRegistry.Proofs.Settings.Sources`: where each setting comes from

A setting has the value of its variable, else the one of the file, else the one that is built in
(`IsLayered`). What a file has at the place of a record is kept when it is a table; anything else is
dropped as soon as a variable sets something in the record, even something that has no meaning
there (`kept?`). Main statements:

* `at?_layered_of_clear`: what variables over a file say at a path that no other variable meets.
* `readsFrom_iff`: a record is made of what is said of its fields.
* `isSaidBy_iff`: which settings are said by variables over a file.
-/

set_option autoImplicit false

namespace DeviceRegistry.Settings

variable {ρ : Type} {d : Record ρ} {r : ρ} {env env' : Environment} {lower lower' v : Value}
  {p q place : List String} {name : String} {s : Settings}

/-! ### Sources -/

/-- The value that a variable sets a path to. -/
def variableAt? (env : Environment) (path : List String) : Option Value :=
  (env.find? fun x => settingPath? x.1 = some path).map fun x => Value.ofText x.2

/-- Whether a variable sets something at a place or in it. -/
def reaches (env : Environment) (place : List String) : Bool :=
  (paths env).any fun path => place.isPrefixOf path

/-- What a file has at the place of a record, unless it is dropped. -/
def kept? (lower : Value) (env : Environment) (place : List String) : Option Value :=
  match lower.at? place with
  | some (.table ms) => some (.table ms)
  | o => if reaches env place then none else o

/-- What is said of a field of the record at a place: by a variable, or else by the file. -/
def said? (d : Record ρ) (lower : Value) (env : Environment) (place : List String)
    (name : String) : Option Value :=
  (variableAt? env (place ++ [name])).or ((kept? lower env place).bind fun v => d.given? v name)

/-- The places of single settings. -/
inductive IsLeaf : List String → Prop
  | defaultProfile : IsLeaf ["default_profile"]
  | defaults {name : String} (known : name ∈ Defaults.record.names) : IsLeaf ["defaults", name]
  | endpoint {name : String} (known : name ∈ endpointRecord.names) : IsLeaf ["endpoint", name]
  | profile (profile : String) {name : String} (known : name ∈ Profile.record.names) :
    IsLeaf ["profiles", profile, name]

/-- The field `output` stands for the record of what holds for all profiles where any leaf of it
will do. -/
theorem isLeaf_output : IsLeaf ["defaults", "output"] := .defaults (by decide)

/-- The field `api_version` stands for the record of the endpoint in the same way. -/
theorem isLeaf_apiVersion : IsLeaf ["endpoint", "api_version"] := .endpoint (by decide)

/-- The registry is a leaf of every profile, whatever its name. -/
theorem isLeaf_registry (name : String) : IsLeaf ["profiles", name, "registry"] :=
  .profile name (by decide)

/-- Single settings are at the top or in one of the records, so what is shown of the three records
is shown of every setting. -/
theorem IsLeaf.place_cases (h : IsLeaf (place ++ [name])) :
    place = [] ∨ place = ["defaults"] ∨ place = ["endpoint"] ∨
      ∃ profile, place = ["profiles", profile] := by
  have hinit : ∀ {init : List String} {last : String}, place ++ [name] = init ++ [last] →
      place = init := fun heq => List.append_inj_left' heq rfl
  generalize hleaf : place ++ [name] = leaf at h
  -- The place is all but the last name of the leaf.
  cases h with
  | @defaultProfile =>
    have hplace : place ++ [name] = [] ++ ["default_profile"] := hleaf
    exact .inl (hinit hplace)
  | @defaults k _ =>
    have hplace : place ++ [name] = ["defaults"] ++ [k] := hleaf
    exact .inr (.inl (hinit hplace))
  | @endpoint k _ =>
    have hplace : place ++ [name] = ["endpoint"] ++ [k] := hleaf
    exact .inr (.inr (.inl (hinit hplace)))
  | @profile profile k _ =>
    have hplace : place ++ [name] = ["profiles", profile] ++ [k] := hleaf
    exact .inr (.inr (.inr ⟨profile, hinit hplace⟩))

/-- One of two paths leads to the other. -/
def Meets (p q : List String) : Prop := p <+: q ∨ q <+: p

/-- No variable sets anything on the way to a path. -/
def IsFree (env : Environment) (p : List String) : Prop :=
  ∀ path ∈ paths env, path <+: p → path = p

/-- No variable sets anything on the way to a path or beyond it. -/
def IsClear (env : Environment) (p : List String) : Prop :=
  ∀ path ∈ paths env, Meets path p → path = p

/-- No variable sets a place or anything on the way to it. -/
def IsUnset (env : Environment) (place : List String) : Prop :=
  ∀ path ∈ paths env, ¬ path <+: place

/-- A path has no meaning: it leads neither to a setting nor into one. -/
def IsUnknown (path : List String) : Prop := ∀ leaf, IsLeaf leaf → ¬ Meets path leaf

/-- A profile is named by the file or by a variable. -/
def IsNamed (lower : Value) (env : Environment) (name : String) : Prop :=
  (lower.at? ["profiles", name]).isSome = true ∨ reaches env ["profiles", name] = true

/-- Every setting has the value of its variable, else the one of the file, else the one that is
built in, and the profiles are those that are named. -/
structure IsLayered (lower : Value) (env : Environment) (s : Settings) : Prop where
  defaultProfile : (Decoder.optional .string).Gives (some "default")
    ((variableAt? env ["default_profile"]).or (lower.at? ["default_profile"])) s.defaultProfile
  defaults : s.defaults.IsSaid (said? Defaults.record lower env ["defaults"])
  endpoint : EndpointIsSaid (said? endpointRecord lower env ["endpoint"]) s.endpoint
  profile : ∀ name p, s.profiles.lookup name = some p →
    p.IsSaid (said? Profile.record lower env ["profiles", name])
  names : ∀ name, name ∈ s.profiles.map Prod.fst ↔ IsNamed lower env name
  sorted : (s.profiles.map Prod.fst).Pairwise (· < ·)

/-- Nothing is said where it cannot be read: variables set single settings, and the file has records
where they belong. -/
structure IsReadable (lower : Value) (env : Environment) : Prop where
  clear : ∀ leaf, IsLeaf leaf → IsClear env leaf
  defaults : ∀ v, kept? lower env ["defaults"] = some v → Defaults.record.Fits v
  endpoint : ∀ v, kept? lower env ["endpoint"] = some v → endpointRecord.Fits v
  profiles : ∀ v, kept? lower env ["profiles"] = some v → ∃ ms, v = .table ms
  profile : ∀ name v, kept? lower env ["profiles", name] = some v → Profile.record.Fits v

/-- A place is reached when some path that is set leads to it or on from it. -/
theorem reaches_iff : reaches env place = true ↔ ∃ path ∈ paths env, place <+: path := by
  simp [reaches]

/-- What a variable sets a path to is the text of one of the variables, read as a value. -/
theorem variableAt?_eq_some (h : variableAt? env p = some v) :
    ∃ x ∈ env, settingPath? x.1 = some p ∧ Value.ofText x.2 = v := by
  obtain ⟨x, hx, hv⟩ := Option.map_eq_some_iff.1 h
  exact ⟨x, List.mem_of_find?_eq_some hx, by simpa using List.find?_some hx, hv⟩

/-- No variable sets a path that is not one of those that are set. -/
theorem variableAt?_eq_none_iff : variableAt? env p = none ↔ p ∉ paths env := by
  simp [variableAt?, mem_paths]

/-- What there is of a variable is in the tree of them all, since no other variable meets it. -/
theorem at?_of_variableAt? (h : AreApart env) (hp : variableAt? env p = some v) :
    (ofEnvironment env).at? p = some v := by
  obtain ⟨x, hx, hpath, rfl⟩ := variableAt?_eq_some hp
  exact h.at?_of_mem hx hpath

/-- What a variable sets is a scalar, as is asked of variables that are apart. -/
theorem isScalar_variableAt? (h : AreApart env) (hp : variableAt? env p = some v) :
    v.IsScalar := by
  obtain ⟨x, hx, hpath, rfl⟩ := variableAt?_eq_some hp
  exact h.scalar x hx p hpath

/-- Where no variable is met none is on the way. To be clear is the stronger condition of the two.
-/
theorem IsClear.isFree (h : IsClear env p) : IsFree env p :=
  fun path hpath hleads => h path hpath (.inl hleads)

/-- Where nothing is set on the way or at the place, the way is free. -/
theorem IsUnset.isFree (h : IsUnset env p) : IsFree env p :=
  fun path hpath hleads => absurd hleads (h path hpath)

/-- A table of the file is kept, whatever the variables set. -/
theorem kept?_of_table {ms : Table} (h : lower.at? place = some (.table ms)) :
    kept? lower env place = some (.table ms) := by
  rw [kept?, h]

/-- What the file has is kept where no variable sets anything. -/
theorem kept?_of_not_reaches (h : reaches env place = false) :
    kept? lower env place = lower.at? place := by
  unfold kept?
  rw [h]
  split
  · rename_i hms
    exact hms.symm
  · rfl

/-- What is kept is what the file has. A variable may take it away, and never changes it to
something else. -/
theorem at?_of_kept? (h : kept? lower env place = some v) : lower.at? place = some v := by
  unfold kept? at h
  split at h
  · rename_i hms
    rwa [hms]
  · split at h
    · cases h
    · exact h

/-- What is kept beside variables is a table, anything else having been dropped. -/
theorem exists_table_of_kept? (h : reaches env place = true) (hv : kept? lower env place = some v) :
    ∃ ms, v = .table ms ∧ lower.at? place = some (.table ms) := by
  unfold kept? at hv
  rw [h] at hv
  split at hv
  · rename_i ms hms
    cases hv
    exact ⟨ms, rfl, hms⟩
  · cases hv

/-- No variable sets the whole tree. Each one has a name behind the prefix, and so a path with a
first part. -/
theorem ne_nil_of_mem_paths (h : p ∈ paths env) : p ≠ [] := by
  obtain ⟨x, -, hx⟩ := mem_paths.1 h
  exact settingPath?_ne_nil hx

/-- Below a place that is not set each name is free: a path on the way there is the name itself. -/
theorem IsUnset.isFree_append (h : IsUnset env place) (name : String) :
    IsFree env (place ++ [name]) := by
  intro path hpath hleads
  rcases List.prefix_concat_iff.1 hleads with heq | hleads
  · exact heq
  · exact absurd hleads (h path hpath)

/-- At the top every name is free, as no variable sets the whole tree. -/
theorem isFree_single (env : Environment) (name : String) : IsFree env [name] :=
  IsUnset.isFree_append
    (fun _ hpath hleads => ne_nil_of_mem_paths hpath (List.prefix_nil.1 hleads)) name

/-- A place is not set when a path behind it is clear: the variable would be met on the way. -/
theorem IsClear.isUnset (h : IsClear env (place ++ name :: p)) : IsUnset env place := by
  intro path hpath hleads
  obtain rfl := h path hpath (.inl (hleads.trans (List.prefix_append place _)))
  have hlength := hleads.length_le
  rw [List.length_append, List.length_cons] at hlength
  omega

/-! ### Variables over a file -/

/-- The tree of the variables over the one of a file. -/
def layered (lower : Value) (env : Environment) : Value := (ofEnvironment env).laidOver lower

section
variable (h : AreApart env) (hl : lower.Ordered)
include h hl

/-- What variables over a file say at a path is what either says there, joined, as long as no
variable hides the rest of the path. -/
theorem at?_layered (hfree : IsFree env p) :
    (layered lower env).at? p = laid ((ofEnvironment env).at? p) (lower.at? p) := by
  obtain ⟨_, -, hordered⟩ := ofEnvironment_ordered env
  exact Value.at?_laidOver hordered hl (h.isOpen hfree)

/-- At the path of a variable the variable counts: a scalar is not joined with anything. -/
theorem at?_layered_of_variable (hfree : IsFree env p) (hv : variableAt? env p = some v) :
    (layered lower env).at? p = some v := by
  rw [at?_layered h hl hfree, at?_of_variableAt? h hv,
    laid_of_not_table (isScalar_variableAt? h hv).not_table]

/-- On the way to what a variable sets there is a table, whatever the file has. What was in the file
is joined with it or dropped. -/
theorem at?_layered_of_below (hfree : IsFree env p) {path : List String}
    (hpath : path ∈ paths env) (hleads : p <+: path) (hne : path ≠ p) :
    ∃ ms, (layered lower env).at? p = some (.table ms) := by
  obtain ⟨rest, rfl⟩ := hleads
  obtain ⟨x, hx, hset⟩ := mem_paths.1 hpath
  cases rest with
  | nil => exact absurd (List.append_nil p) hne
  | cons name rest =>
    obtain ⟨ms, hms⟩ := h.at?_of_below hx hset
    rw [at?_layered h hl hfree, hms]
    exact exists_laid_table ms _

/-- Where no variable sets anything, the file counts: neither at the place, nor above it, nor below
it. -/
theorem at?_layered_of_not_reaches (hfree : IsFree env p) (hne : p ≠ [])
    (hreaches : reaches env p = false) : (layered lower env).at? p = lower.at? p := by
  have hnone : (ofEnvironment env).at? p = none := by
    refine h.at?_eq_none hne fun path hpath hleads => ?_
    rw [reaches_iff.2 ⟨path, hpath, hleads⟩] at hreaches
    cases hreaches
  rw [at?_layered h hl hfree, hnone, laid_none_left]

/-- At a path that no other variable meets, the variable counts, or else the file. This is the rule
for a setting at the top and for members of a table. -/
theorem at?_layered_of_clear (hclear : IsClear env p) (hne : p ≠ []) :
    (layered lower env).at? p = (variableAt? env p).or (lower.at? p) := by
  cases hv : variableAt? env p with
  | some v => exact at?_layered_of_variable h hl hclear.isFree hv
  | none =>
    refine at?_layered_of_not_reaches h hl hclear.isFree hne ?_
    rw [Bool.eq_false_iff]
    intro hreaches
    obtain ⟨path, hpath, hleads⟩ := reaches_iff.1 hreaches
    obtain rfl := hclear path hpath (.inr hleads)
    exact variableAt?_eq_none_iff.1 hv hpath

/-- A place that variables lead into, but none is set at, has a table, so a list or a scalar of the
file is dropped there. -/
theorem at?_layered_of_reaches (hunset : IsUnset env place) (hreaches : reaches env place = true) :
    ∃ ms, (layered lower env).at? place = some (.table ms) := by
  obtain ⟨path, hpath, hleads⟩ := reaches_iff.1 hreaches
  refine at?_layered_of_below h hl hunset.isFree hpath hleads ?_
  rintro rfl
  exact hunset path hpath (List.prefix_refl path)

/-- What is said of a field of a record that is not a variable itself: found in the tree it is what
the variable or the kept value of the file says, which need not speak of the joined tree. -/
theorem given?_layered (d : Record ρ) (hne : place ≠ []) (hunset : IsUnset env place)
    (hclear : IsClear env (place ++ [name])) :
    (((layered lower env).at? place).bind fun v => d.given? v name) =
      said? d lower env place name := by
  unfold said?
  cases hreaches : reaches env place with
  | true =>
    -- There is a table, the members of which are found at their paths.
    obtain ⟨ms, hms⟩ := at?_layered_of_reaches h hl hunset hreaches
    have hgiven : (((layered lower env).at? place).bind fun v => d.given? v name) =
        (layered lower env).at? (place ++ [name]) := by
      rw [Value.at?_append, hms]
      exact (Value.at?_single name ms).symm
    rw [hgiven, at?_layered_of_clear h hl hclear (List.concat_ne_nil name place), Value.at?_append]
    refine congrArg (Option.or _) ?_
    cases hlower : lower.at? place with
    | none =>
      rw [kept?, hlower, hreaches]
      rfl
    | some w =>
      cases w with
      | table ls =>
        rw [kept?_of_table hlower]
        exact Value.at?_single name ls
      | _ =>
        rw [kept?, hlower, hreaches]
        rfl
  | false =>
    have hnone : variableAt? env (place ++ [name]) = none := by
      refine variableAt?_eq_none_iff.2 fun hpath => ?_
      rw [reaches_iff.2 ⟨_, hpath, List.prefix_append place [name]⟩] at hreaches
      cases hreaches
    rw [hnone, kept?_of_not_reaches hreaches,
      at?_layered_of_not_reaches h hl hunset.isFree hne hreaches]
    rfl

/-- What is true of every table is true at a place if it is true of what is kept there. Where a
variable leads into the place both sides hold. -/
theorem forall_layered_iff {P : Value → Prop} (hunset : IsUnset env place) (hne : place ≠ [])
    (htable : ∀ ms, P (.table ms)) :
    (∀ v, (layered lower env).at? place = some v → P v) ↔
      ∀ v, kept? lower env place = some v → P v := by
  cases hreaches : reaches env place with
  | true =>
    obtain ⟨ms, hms⟩ := at?_layered_of_reaches h hl hunset hreaches
    refine iff_of_true ?_ fun v hv => ?_
    · rw [hms]
      rintro _ ⟨⟩
      exact htable ms
    · obtain ⟨ls, rfl, -⟩ := exists_table_of_kept? hreaches hv
      exact htable ls
  | false =>
    rw [kept?_of_not_reaches hreaches,
      at?_layered_of_not_reaches h hl hunset.isFree hne hreaches]

/-- A record is made of what is said of its fields, if what the file has there can be read. With
this lemma the joined tree disappears from what is known of a record. -/
theorem readsFrom_iff (hd : d.IsLawful) (hne : place ≠ []) (hunset : IsUnset env place)
    (hclear : ∀ name ∈ d.names, IsClear env (place ++ [name])) :
    d.ReadsFrom ((layered lower env).at? place) r ↔
      (∀ v, kept? lower env place = some v → d.Fits v) ∧ d.Reads (said? d lower env place) r := by
  have hsame := fun name hname => given?_layered h hl d hne hunset (hclear name hname)
  have hfits : (∀ v, (layered lower env).at? place = some v → d.Fits v) ↔
      ∀ v, kept? lower env place = some v → d.Fits v :=
    forall_layered_iff h hl hunset hne fun _ => trivial
  constructor
  · rintro ⟨hfit, hreads⟩
    exact ⟨hfits.1 hfit, hreads.congr hd hsame⟩
  · rintro ⟨hfit, hreads⟩
    exact ⟨hfits.2 hfit, hreads.congr hd fun name hname => (hsame name hname).symm⟩

/-- Where a record can be read, variables set only its fields: neither the record as a whole, which
would be a scalar, nor anything inside a field, which would be a table. -/
theorem isClear_of_readsFrom (hflat : d.IsFlat) (hfree : IsFree env place)
    (hreads : d.ReadsFrom ((layered lower env).at? place) r) :
    IsUnset env place ∧ ∀ name ∈ d.names, IsClear env (place ++ [name]) := by
  -- A variable at the place itself would put a scalar there, which no record can be read from.
  have hunset : IsUnset env place := by
    intro path hpath hleads
    obtain rfl := hfree path hpath hleads
    cases hv : variableAt? env path with
    | none => exact variableAt?_eq_none_iff.1 hv hpath
    | some v =>
      have hfits := hreads.fits v (at?_layered_of_variable h hl hfree hv)
      have hscalar := isScalar_variableAt? h hv
      cases v with
      | table ms => exact hscalar
      | list vs => exact hscalar
      | _ => exact hfits
  refine ⟨hunset, fun name hname path hpath hmeets => ?_⟩
  have hfree' := hunset.isFree_append name
  rcases hmeets with hleads | hleads
  · exact hfree' path hpath hleads
  · -- A path that leads into a field makes it a table.
    refine Decidable.byContradiction fun hbeyond => ?_
    obtain ⟨ms, hms⟩ := at?_layered_of_below h hl hfree' hpath hleads hbeyond
    rw [Value.at?_append, Option.bind_eq_some_iff] at hms
    obtain ⟨w, hw, hms⟩ := hms
    refine hreads.reads.not_table hflat hname ms ?_
    cases w with
    | table ws =>
      rw [hw]
      exact (Value.at?_single name ws).symm.trans hms
    | _ => cases hms

/-- A place that variables reach is filled, by the variable that sets it or by a table. -/
theorem isSome_at?_layered (hfree : IsFree env p) (hreaches : reaches env p = true) :
    ((layered lower env).at? p).isSome = true := by
  obtain ⟨path, hpath, hleads⟩ := reaches_iff.1 hreaches
  by_cases heq : path = p
  · subst heq
    cases hv : variableAt? env path with
    | none => exact absurd hpath (variableAt?_eq_none_iff.1 hv)
    | some v => rw [at?_layered_of_variable h hl hfree hv, Option.isSome_some]
  · obtain ⟨ms, hms⟩ := at?_layered_of_below h hl hfree hpath hleads heq
    rw [hms, Option.isSome_some]

/-! ### Settings from both -/

/-- When settings can be read, variables set single settings, no more and no less. Going down the
tree, each place that is met would have a scalar for a record or a table for a field. -/
theorem isClear_of_isSaidBy (hs : IsSaidBy (layered lower env) s) {leaf : List String}
    (hleaf : IsLeaf leaf) : IsClear env leaf := by
  have hprofiles : IsUnset env ["profiles"] := by
    intro path hpath hleads
    obtain rfl := isFree_single env "profiles" path hpath hleads
    cases hv : variableAt? env ["profiles"] with
    | none => exact variableAt?_eq_none_iff.1 hv hpath
    | some v =>
      obtain ⟨ms, rfl⟩ := hs.profiles v
        (at?_layered_of_variable h hl (isFree_single env "profiles") hv)
      exact (isScalar_variableAt? h hv).not_table ms rfl
  cases hleaf with
  | defaultProfile =>
    intro path hpath hmeets
    rcases hmeets with hleads | hleads
    · exact isFree_single env _ path hpath hleads
    · refine Decidable.byContradiction fun hbeyond => ?_
      obtain ⟨ms, hms⟩ :=
        at?_layered_of_below h hl (isFree_single env "default_profile") hpath hleads hbeyond
      have hname := hs.defaultProfile
      rw [hms] at hname
      cases hname
  | defaults known =>
    exact (isClear_of_readsFrom h hl Defaults.isFlat (isFree_single env _) hs.defaults).2 _ known
  | endpoint known =>
    exact (isClear_of_readsFrom h hl endpoint_isFlat (isFree_single env _) hs.endpoint).2 _ known
  | profile name known =>
    have hfree : IsFree env ["profiles", name] := hprofiles.isFree_append name
    cases hreaches : reaches env ["profiles", name] with
    | true =>
      -- A profile that a variable names is there, and can be read.
      have hmem := (hs.names name).2 (isSome_at?_layered h hl hfree hreaches)
      obtain ⟨profile, hlookup⟩ := Option.isSome_iff_exists.1 (isSome_lookup_iff.2 hmem)
      have hread := hs.profile name profile hlookup
      exact (isClear_of_readsFrom h hl Profile.isFlat hfree hread).2 _ known
    | false =>
      have hnone : ∀ path ∈ paths env, ¬ ["profiles", name] <+: path := by
        intro path hpath hleads
        rw [reaches_iff.2 ⟨path, hpath, hleads⟩] at hreaches
        cases hreaches
      intro path hpath hmeets
      rcases hmeets with hleads | hleads
      · have hleads : path <+: ["profiles", name] ++ [_] := hleads
        rcases List.prefix_concat_iff.1 hleads with heq | hleads
        · exact heq
        · obtain rfl := hfree path hpath hleads
          exact absurd (List.prefix_refl _) (hnone _ hpath)
      · exact absurd ((List.prefix_append ["profiles", name] _).trans hleads) (hnone path hpath)

/-- A place is filled by the file or by variables. The profiles that are named are found by it. -/
theorem isSome_at?_layered_iff (hunset : IsUnset env place) (hne : place ≠ []) :
    ((layered lower env).at? place).isSome = true ↔
      (lower.at? place).isSome = true ∨ reaches env place = true := by
  cases hreaches : reaches env place with
  | true => exact iff_of_true (isSome_at?_layered h hl hunset.isFree hreaches) (.inr rfl)
  | false =>
    rw [at?_layered_of_not_reaches h hl hunset.isFree hne hreaches]
    exact (or_iff_left Bool.false_ne_true).symm

/-- What is said of settings when variables set single settings only: the lemmas on a record are put
together, one for each place of the tree. -/
theorem isSaidBy_iff_of_clear (hclear : ∀ leaf, IsLeaf leaf → IsClear env leaf) :
    IsSaidBy (layered lower env) s ↔ IsReadable lower env ∧ IsLayered lower env s := by
  have hdefault := at?_layered_of_clear h hl (hclear _ .defaultProfile) (List.cons_ne_nil _ _)
  have hdefaults : Defaults.record.ReadsFrom ((layered lower env).at? ["defaults"]) s.defaults ↔
      (∀ v, kept? lower env ["defaults"] = some v → Defaults.record.Fits v) ∧
        s.defaults.IsSaid (said? Defaults.record lower env ["defaults"]) := by
    refine (readsFrom_iff h hl Defaults.isLawful (List.cons_ne_nil "defaults" [])
      (hclear _ isLeaf_output).isUnset fun _ known => hclear _ (.defaults known)).trans ?_
    exact and_congr_right fun _ => Defaults.reads_iff
  have hendpoint : endpointRecord.ReadsFrom ((layered lower env).at? ["endpoint"]) s.endpoint ↔
      (∀ v, kept? lower env ["endpoint"] = some v → endpointRecord.Fits v) ∧
        EndpointIsSaid (said? endpointRecord lower env ["endpoint"]) s.endpoint := by
    refine (readsFrom_iff h hl endpoint_isLawful (List.cons_ne_nil "endpoint" [])
      (hclear _ isLeaf_apiVersion).isUnset fun _ known => hclear _ (.endpoint known)).trans ?_
    exact and_congr_right fun _ => endpoint_reads_iff
  have hunset : ∀ name, IsUnset env ["profiles", name] := fun name =>
    (hclear _ (isLeaf_registry name)).isUnset
  have hprofile : ∀ name p,
      Profile.record.ReadsFrom ((layered lower env).at? ["profiles", name]) p ↔
        (∀ v, kept? lower env ["profiles", name] = some v → Profile.record.Fits v) ∧
          p.IsSaid (said? Profile.record lower env ["profiles", name]) := by
    intro name p
    refine (readsFrom_iff h hl Profile.isLawful (List.cons_ne_nil _ _) (hunset name)
      fun _ known => hclear _ (.profile name known)).trans ?_
    exact and_congr_right fun _ => Profile.reads_iff
  have htable : (∀ v, (layered lower env).at? ["profiles"] = some v → ∃ ms, v = .table ms) ↔
      ∀ v, kept? lower env ["profiles"] = some v → ∃ ms, v = .table ms :=
    forall_layered_iff h hl (hclear _ (isLeaf_registry "")).isUnset
      (List.cons_ne_nil "profiles" []) fun ms => ⟨ms, rfl⟩
  have hnamed : ∀ name, ((layered lower env).at? ["profiles", name]).isSome = true ↔
      IsNamed lower env name := fun name =>
    isSome_at?_layered_iff h hl (hunset name) (List.cons_ne_nil _ _)
  -- Place by place. Only for a profile it is not clear which ones there are until the names have
  -- been compared.
  constructor
  · rintro ⟨hname, hd, hc, hprofiles, hnames, hsorted, hall⟩
    obtain ⟨hdfits, hdsaid⟩ := hdefaults.1 hd
    obtain ⟨hcfits, hcsaid⟩ := hendpoint.1 hc
    refine ⟨⟨hclear, hdfits, hcfits, htable.1 hprofiles, ?_⟩, ?_, hdsaid, hcsaid, ?_, ?_, hsorted⟩
    · -- What is kept of a profile names it, so that it has been read.
      intro name v hv
      have hsome : (lower.at? ["profiles", name]).isSome = true := by
        rw [at?_of_kept? hv, Option.isSome_some]
      have hmem := (hnames name).2 ((hnamed name).2 (.inl hsome))
      obtain ⟨p, hp⟩ := Option.isSome_iff_exists.1 (isSome_lookup_iff.2 hmem)
      exact ((hprofile name p).1 (hall name p hp)).1 v hv
    · rwa [hdefault] at hname
    · exact fun name p hp => ((hprofile name p).1 (hall name p hp)).2
    · exact fun name => (hnames name).trans (hnamed name)
  · rintro ⟨hreadable, hlayered⟩
    refine ⟨?_, hdefaults.2 ⟨hreadable.defaults, hlayered.defaults⟩,
      hendpoint.2 ⟨hreadable.endpoint, hlayered.endpoint⟩, htable.2 hreadable.profiles, ?_,
      hlayered.sorted, ?_⟩
    · rw [hdefault]
      exact hlayered.defaultProfile
    · exact fun name => (hlayered.names name).trans (hnamed name).symm
    · exact fun name p hp =>
        (hprofile name p).2 ⟨hreadable.profile name, hlayered.profile name p hp⟩

/-- Which settings variables over a file say. That the leaves are clear need not be asked for: it
follows from what can be read. -/
theorem isSaidBy_iff :
    IsSaidBy (layered lower env) s ↔ IsReadable lower env ∧ IsLayered lower env s :=
  ⟨fun hs => (isSaidBy_iff_of_clear h hl fun _ => isClear_of_isSaidBy h hl hs).1 hs,
    fun hs => (isSaidBy_iff_of_clear h hl hs.1.clear).2 hs⟩

end

end DeviceRegistry.Settings
