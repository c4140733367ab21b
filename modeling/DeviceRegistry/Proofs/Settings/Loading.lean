import DeviceRegistry.Proofs.Settings.Sources

/-!
# `DeviceRegistry.Proofs.Settings.Loading`: what settings are loaded as

Settings are loaded exactly when what is said of them can be read, and then every setting comes from
the first source that says it (`load_eq_ok_iff`). So nothing matters but what is said of single
settings: a file may say more (`SameButUnknown`), and variables that set nothing known may be left
out (`LeavesOutUnknown`). Main statements:

* `load_eq_ok_iff`: which settings are loaded from a file and variables.
* `SameButUnknown.load`, `LeavesOutUnknown.load`: what does not matter in a file and in variables.
* `load_isLayered`: both together, and that the order of the variables does not matter either.
-/

set_option autoImplicit false

namespace DeviceRegistry.Settings

variable {ρ : Type} {d : Record ρ} {file file' : Option String} {env env' : Environment}
  {lower lower' v : Value} {p place : List String} {name : String} {s : Settings}

/-- Settings are loaded when what is said of them can be read, and as what is said. Everything below
is about the right side only: neither trees nor decoders are opened again. -/
theorem load_eq_ok_iff (h : AreApart env) (hfile : ofFile file = .ok lower) :
    load file env = .ok s ↔ IsReadable lower env ∧ IsLayered lower env s := by
  obtain ⟨ls, rfl, hl⟩ := ofFile_ordered hfile
  obtain ⟨us, hus, hu⟩ := ofEnvironment_ordered env
  have hlayered : layered (.table ls) env = .table (Value.overMembers us ls) := by
    rw [layered, hus]
    rfl
  have hordered := hu.laidOver hl
  rw [load, hfile, except_bind_ok, except_mapError_eq_ok]
  show record.decoder (layered (.table ls) env) = .ok s ↔ _
  rw [← isSaidBy_iff h hl]
  rw [hus] at hordered
  rw [hlayered]
  exact decoder_eq_ok_iff hordered

/-- Whatever says the same of every setting is loaded as the same: each record depends on what is
said of its own names, and the profiles on which of them are named. -/
theorem IsLayered.congr (h : IsLayered lower env s)
    (hdefault : (variableAt? env ["default_profile"]).or (lower.at? ["default_profile"]) =
      (variableAt? env' ["default_profile"]).or (lower'.at? ["default_profile"]))
    (hsaid : ∀ {ρ : Type} (d : Record ρ) place name, IsLeaf (place ++ [name]) →
      said? d lower env place name = said? d lower' env' place name)
    (hnamed : ∀ name, IsNamed lower env name ↔ IsNamed lower' env' name) :
    IsLayered lower' env' s where
  defaultProfile := hdefault ▸ h.defaultProfile
  defaults := Defaults.reads_iff.1 ((Defaults.reads_iff.2 h.defaults).congr Defaults.isLawful
    fun name known => hsaid _ ["defaults"] name (.defaults known))
  endpoint := endpoint_reads_iff.1 ((endpoint_reads_iff.2 h.endpoint).congr endpoint_isLawful
    fun name known => hsaid _ ["endpoint"] name (.endpoint known))
  profile profile p hp := Profile.reads_iff.1 ((Profile.reads_iff.2 (h.profile profile p hp)).congr
    Profile.isLawful fun name known => hsaid _ ["profiles", profile] name (.profile profile known))
  names name := (h.names name).trans (hnamed name)
  sorted := h.sorted

/-! ### Files that say more -/

/-- Two trees of files have the same but for keys that are not known. -/
structure SameButUnknown (lower lower' : Value) : Prop where
  leaf : ∀ leaf, IsLeaf leaf → lower.at? leaf = lower'.at? leaf
  place : ∀ place name rest, IsLeaf (place ++ name :: rest) → lower.at? place = lower'.at? place ∨
    (∃ ms, lower.at? place = some (.table ms)) ∧ ∃ ms, lower'.at? place = some (.table ms)

/-- What is kept of a file at a place depends on what the file has there and on nothing else in
it. -/
theorem kept?_congr_file (h : lower.at? place = lower'.at? place) :
    kept? lower env place = kept? lower' env place := by
  rw [kept?, kept?, h]

namespace SameButUnknown

variable (h : SameButUnknown lower lower')
include h

/-- Files that differ in unknown keys say the same of every known field, be the record around it the
same in both or a table in both. -/
theorem said?_eq (hleaf : IsLeaf (place ++ [name])) :
    said? d lower env place name = said? d lower' env place name := by
  rw [said?, said?]
  refine congrArg (Option.or _) ?_
  rcases h.place place name [] hleaf with hsame | ⟨⟨ms, hms⟩, ms', hms'⟩
  · rw [kept?_congr_file hsame]
  · have hfield := h.leaf _ hleaf
    rw [Value.at?_append, Value.at?_append, hms, hms', Option.bind_some, Option.bind_some,
      Value.at?_single, Value.at?_single] at hfield
    rw [kept?_of_table hms, kept?_of_table hms']
    exact hfield

/-- What is kept of the one file can be read when what is kept of the other can: where they differ,
both have a table, and a table can be read. -/
theorem kept?_imp {rest : List String} {P : Value → Prop} (hleaf : IsLeaf (place ++ name :: rest))
    (htable : ∀ ms, P (.table ms)) (hkept : ∀ v, kept? lower env place = some v → P v) :
    ∀ v, kept? lower' env place = some v → P v := by
  intro v hv
  rcases h.place place name rest hleaf with hsame | ⟨-, ms', hms'⟩
  · exact hkept v (by rwa [kept?_congr_file hsame])
  · rw [kept?_of_table hms'] at hv
    cases hv
    exact htable ms'

/-- Unknown keys name no profile: a profile is named by the members of the table of profiles, which
agree as far as they lead on to a known field. -/
theorem isNamed_iff : IsNamed lower env name ↔ IsNamed lower' env name := by
  unfold IsNamed
  rcases h.place ["profiles", name] "registry" [] (isLeaf_registry name) with
    hsame | ⟨⟨ms, hms⟩, ms', hms'⟩
  · rw [hsame]
  · rw [hms, hms']
    rfl

/-- Unknown keys keep a file readable, place by place. Each condition is on values that the file has
at known places. -/
theorem isReadable (hreadable : IsReadable lower env) : IsReadable lower' env where
  clear := hreadable.clear
  defaults := h.kept?_imp isLeaf_output (fun _ => trivial) hreadable.defaults
  endpoint := h.kept?_imp isLeaf_apiVersion (fun _ => trivial) hreadable.endpoint
  profiles := h.kept?_imp (isLeaf_registry "") (fun ms => ⟨ms, rfl⟩) hreadable.profiles
  profile name := h.kept?_imp (isLeaf_registry name) (fun _ => trivial) (hreadable.profile name)

/-- Keys that are not known do not matter in a file: what is loaded with them is loaded without
them, and the other way round, since the relation holds in both directions. -/
theorem load (hapart : AreApart env) (hfile : ofFile file = .ok lower)
    (hfile' : ofFile file' = .ok lower') (hload : Settings.load file env = .ok s) :
    Settings.load file' env = .ok s := by
  obtain ⟨hreadable, hlayered⟩ := (load_eq_ok_iff hapart hfile).1 hload
  refine (load_eq_ok_iff hapart hfile').2 ⟨h.isReadable hreadable, hlayered.congr ?_ ?_ ?_⟩
  · rw [h.leaf _ .defaultProfile]
  · exact fun _ _ _ hleaf => h.said?_eq hleaf
  · exact fun _ => h.isNamed_iff

end SameButUnknown

/-! ### Variables that set nothing known -/

/-- Some variables are left out that set nothing known. Where they are the only ones in a record,
the file has a table there, or nothing: anything else would count again. -/
structure LeavesOutUnknown (lower : Value) (env env' : Environment) : Prop where
  sublist : env'.Sublist env
  unknown : ∀ path ∈ paths env, path ∉ paths env' → IsUnknown path
  table : ∀ place ∈ [["defaults"], ["endpoint"]], reaches env place = true →
    reaches env' place = true ∨ ∀ v, lower.at? place = some v → ∃ ms, v = .table ms

namespace LeavesOutUnknown

variable (h : LeavesOutUnknown lower env env')
include h

/-- A variable that meets a known leaf is not among those that are left out. -/
theorem mem_paths_of_meets (hp : p ∈ paths env) {leaf : List String} (hleaf : IsLeaf leaf)
    (hmeets : Meets p leaf) : p ∈ paths env' :=
  Decidable.byContradiction fun hout => h.unknown p hp hout leaf hleaf hmeets

/-- The variables that are left are some of those there were. -/
theorem mem_paths (hp : p ∈ paths env') : p ∈ paths env := (h.sublist.filterMap _).mem hp

/-- A place that is reached by what is left is reached by all variables. -/
theorem reaches_of_reaches (hreaches : reaches env' place = true) : reaches env place = true := by
  obtain ⟨path, hpath, hleads⟩ := reaches_iff.1 hreaches
  exact reaches_iff.2 ⟨path, h.mem_paths hpath, hleads⟩

/-- Every known leaf has the same variable in both environments: none that sets it is left out, and
none is added. -/
theorem variableAt?_eq (hapart : AreApart env) {leaf : List String} (hleaf : IsLeaf leaf) :
    variableAt? env leaf = variableAt? env' leaf := by
  cases hv : variableAt? env' leaf with
  | some v =>
    obtain ⟨x, hx, hpath, rfl⟩ := variableAt?_eq_some hv
    cases hw : variableAt? env leaf with
    | some w =>
      have hboth := at?_of_variableAt? hapart hw
      rwa [hapart.at?_of_mem (h.sublist.mem hx) hpath, eq_comm] at hboth
    | none =>
      have hset := h.mem_paths (Settings.mem_paths.2 ⟨x, hx, hpath⟩)
      exact absurd hset (variableAt?_eq_none_iff.1 hw)
  | none =>
    rw [variableAt?_eq_none_iff] at hv ⊢
    exact fun hpath => hv (h.mem_paths_of_meets hpath hleaf (.inl (List.prefix_refl leaf)))

/-- The file keeps what it has, unless that is a value that counts again. This is where a list that
stands for a record makes a difference, and why tables are asked for. -/
theorem kept?_eq (htable : reaches env place = true → reaches env' place = true ∨
      ∀ v, lower.at? place = some v → ∃ ms, v = .table ms) :
    kept? lower env place = kept? lower env' place := by
  -- Fewer variables reach no more. If all of them reached the place and what is left does not, only
  -- a table or nothing is kept either way.
  cases hreaches : reaches env place with
  | false =>
    have hreaches' : reaches env' place = false :=
      Bool.eq_false_iff.2 fun hr => Bool.eq_false_iff.1 hreaches (h.reaches_of_reaches hr)
    rw [kept?_of_not_reaches hreaches, kept?_of_not_reaches hreaches']
  | true =>
    rcases htable hreaches with hreaches' | htable
    · unfold kept?
      rw [hreaches, hreaches']
    · cases hlower : lower.at? place with
      | none =>
        rw [kept?, kept?, hlower]
        simp
      | some v =>
        obtain ⟨ms, rfl⟩ := htable v hlower
        rw [kept?_of_table hlower, kept?_of_table hlower]

/-- The field of a record that has variables or a table of the file is said by either, so leaving
out unknown variables changes nothing of it. -/
theorem said?_eq (hapart : AreApart env) (hleaf : IsLeaf (place ++ [name]))
    (htable : reaches env place = true → reaches env' place = true ∨
      ∀ v, lower.at? place = some v → ∃ ms, v = .table ms) :
    said? d lower env place name = said? d lower env' place name := by
  rw [said?, said?, h.variableAt?_eq hapart hleaf, h.kept?_eq htable]

/-- A profile that has been loaded is named by what is left, as its registry is said: either by a
variable, which is known and so not left out, or by a table of the file. -/
theorem reaches_profile (hlayered : IsLayered lower env s)
    (hreaches : reaches env ["profiles", name] = true) :
    reaches env' ["profiles", name] = true ∨
      ∃ ms, lower.at? ["profiles", name] = some (.table ms) := by
  have hmem := (hlayered.names name).2 (.inr hreaches)
  obtain ⟨p, hp⟩ := Option.isSome_iff_exists.1 (isSome_lookup_iff.2 hmem)
  obtain ⟨v, hv, -⟩ := (hlayered.profile name p hp).registry
  rcases Option.or_eq_some_iff.1 hv with hv | ⟨-, hv⟩
  · obtain ⟨x, hx, hpath, -⟩ := variableAt?_eq_some hv
    have hleft := h.mem_paths_of_meets (Settings.mem_paths.2 ⟨x, hx, hpath⟩)
      (isLeaf_registry name) (.inl (List.prefix_refl _))
    exact .inl (reaches_iff.2 ⟨_, hleft, List.prefix_append ["profiles", name] ["registry"]⟩)
  · obtain ⟨w, hw, -⟩ := Option.bind_eq_some_iff.1 hv
    obtain ⟨ms, -, hms⟩ := exists_table_of_kept? hreaches hw
    exact .inr ⟨ms, hms⟩

/-- The profiles are reached by what is left, or the file has a table of them, since each profile
that a variable leads to has a registry from somewhere. -/
theorem reaches_profiles (hlayered : IsLayered lower env s)
    (hreaches : reaches env ["profiles"] = true) :
    reaches env' ["profiles"] = true ∨ ∃ ms, lower.at? ["profiles"] = some (.table ms) := by
  obtain ⟨path, hpath, hleads⟩ := reaches_iff.1 hreaches
  obtain ⟨rest, rfl⟩ := hleads
  -- A variable for the table of profiles itself would be known, so it is left. Any other leads to a
  -- profile.
  cases rest with
  | nil =>
    have hleft := h.mem_paths_of_meets hpath (isLeaf_registry "") (.inl (List.prefix_append _ _))
    exact .inl (reaches_iff.2 ⟨_, hleft, List.prefix_refl _⟩)
  | cons name rest =>
    have hprofile : reaches env ["profiles", name] = true :=
      reaches_iff.2 ⟨_, hpath, List.prefix_append ["profiles", name] rest⟩
    rcases h.reaches_profile hlayered hprofile with hleft | ⟨ms, hms⟩
    · obtain ⟨path, hpath, hleads⟩ := reaches_iff.1 hleft
      have hprofiles := (List.prefix_append ["profiles"] [name]).trans hleads
      exact .inl (reaches_iff.2 ⟨path, hpath, hprofiles⟩)
    · rw [show ["profiles", name] = ["profiles"] ++ [name] from rfl, Value.at?_append] at hms
      obtain ⟨v, hv, hms⟩ := Option.bind_eq_some_iff.1 hms
      cases v with
      | table ls => exact .inr ⟨ls, hv⟩
      | _ => cases hms

/-- Variables that set nothing known do not matter. What is readable stays so, place by place, and
each record is loaded as before by the lemmas on what is kept and said. -/
theorem load (hapart : AreApart env) (hfile : ofFile file = .ok lower)
    (hload : Settings.load file env = .ok s) : Settings.load file env' = .ok s := by
  obtain ⟨hreadable, hlayered⟩ := (load_eq_ok_iff hapart hfile).1 hload
  -- The places at which unknown variables may have been the only ones.
  have htable : ∀ {place : List String}, (∃ ms, lower.at? place = some (.table ms)) →
      ∀ v, lower.at? place = some v → ∃ ms, v = .table ms := by
    rintro place ⟨ms, hms⟩ v hv
    rw [hms] at hv
    cases hv
    exact ⟨ms, rfl⟩
  have hdefaults := h.table ["defaults"] (by simp)
  have hendpoint := h.table ["endpoint"] (by simp)
  have hprofiles := fun hr => (h.reaches_profiles hlayered hr).imp_right htable
  have hprofile : ∀ name, reaches env ["profiles", name] = true → _ ∨ _ := fun name hr =>
    (h.reaches_profile hlayered hr).imp_right htable
  refine (load_eq_ok_iff (hapart.sublist h.sublist) hfile).2 ⟨?_, hlayered.congr ?_ ?_ ?_⟩
  · refine ⟨?_, ?_, ?_, ?_, fun name => ?_⟩
    · exact fun leaf hleaf path hpath => hreadable.clear leaf hleaf path (h.mem_paths hpath)
    · rw [← h.kept?_eq hdefaults]
      exact hreadable.defaults
    · rw [← h.kept?_eq hendpoint]
      exact hreadable.endpoint
    · rw [← h.kept?_eq hprofiles]
      exact hreadable.profiles
    · rw [← h.kept?_eq (hprofile name)]
      exact hreadable.profile name
  · rw [h.variableAt?_eq hapart .defaultProfile]
  · intro ρ d place name hleaf
    refine h.said?_eq hapart hleaf ?_
    rcases hleaf.place_cases with rfl | rfl | rfl | ⟨profile, rfl⟩
    · obtain ⟨ls, rfl, -⟩ := ofFile_ordered hfile
      exact fun _ => .inr (htable ⟨ls, rfl⟩)
    · exact hdefaults
    · exact hendpoint
    · exact hprofile profile
  · intro name
    constructor
    · rintro (hfile | hr)
      · exact .inl hfile
      · rcases h.reaches_profile hlayered hr with hr | ⟨ms, hms⟩
        · exact .inr hr
        · exact .inl (by rw [hms, Option.isSome_some])
    · exact Or.imp_right h.reaches_of_reaches

end LeavesOutUnknown

/-! ### All together -/

/-- Every setting that is loaded has the value of its variable, else the one of the file, else the
one that is built in. Neither the order of the variables matters, nor keys that are not known in the
file, nor variables that set nothing known. -/
theorem load_isLayered (hload : load file env = .ok s) (hfile : ofFile file = .ok lower)
    (h : AreApart env) :
    IsLayered lower env s ∧
    (∀ vars, env.Perm vars → load file vars = .ok s ∧
      record.decoder ((treeOf vars).laidOver lower) = .ok s) ∧
    (∀ file' lower', ofFile file' = .ok lower' → SameButUnknown lower lower' →
      load file' env = .ok s) ∧
    ∀ env', LeavesOutUnknown lower env env' → load file env' = .ok s := by
  -- The order of the variables goes away with the tree that they make, and the rest has been shown
  -- for readable settings.
  refine ⟨((load_eq_ok_iff h hfile).1 hload).2, fun vars hperm => ?_, ?_, ?_⟩
  · have htree : treeOf vars = ofEnvironment env := (h.ofEnvironment_eq_treeOf hperm).symm
    have hvars : ofEnvironment vars = ofEnvironment env :=
      ((h.perm hperm).ofEnvironment_eq_treeOf (.refl vars)).trans htree
    have hdecoded := hload
    rw [load, hfile, except_bind_ok, except_mapError_eq_ok] at hdecoded
    refine ⟨?_, by rw [htree]; exact hdecoded⟩
    rw [load, hvars]
    exact hload
  · exact fun _ _ hfile' hsame => hsame.load h hfile hfile' hload
  · exact fun _ hleaves => hleaves.load h hfile hload

/-- A file with a profile, and a key that is not known. -/
def deskFile : String :=
  "[defaults]\noutput = 'json'\n" ++
    "[profiles.desk]\nregistry = 'http://desk'\ntimeout = 5\ncolour = 1\n"

/-- What is loaded from it with a variable for the timeout of the profile. -/
def desk : Settings where
  defaults := { output := "json" }
  profiles := [("desk", { registry := "http://desk", timeout := some 60 })]

/-- A variable for the timeout of the profile, and one that sets nothing known. -/
def deskVariables : Environment :=
  [("DEVREG_PROFILES__DESK__TIMEOUT", "60"), ("DEVREG_COLOUR", "red")]

/-- A profile of a file with an unknown key, whose timeout a variable overrides: loaded with the
variables in reverse order, and without the one that sets nothing known. -/
theorem load_isLayered_desk :
    load (some deskFile) deskVariables.reverse = .ok desk ∧
      load (some deskFile) (deskVariables.take 1) = .ok desk := by
  have htimeout : settingPath? "DEVREG_PROFILES__DESK__TIMEOUT" =
      some ["profiles", "desk", "timeout"] := by decide +kernel
  have hcolour : settingPath? "DEVREG_COLOUR" = some ["colour"] := by decide +kernel
  have hpaths : paths deskVariables = [["profiles", "desk", "timeout"], ["colour"]] := by
    decide +kernel
  have hleft : ["profiles", "desk", "timeout"] ∈ paths (deskVariables.take 1) := by decide +kernel
  have hunreached : ∀ place ∈ [["defaults"], ["endpoint"]],
      reaches deskVariables place = false := by decide +kernel
  have hscalar : ∀ x ∈ deskVariables, (Value.ofText x.2).IsScalar := by decide +kernel
  have hapart : AreApart deskVariables := by
    refine ⟨fun x hx _ _ => hscalar x hx, List.pairwise_pair.2 fun p q hp hq => ?_⟩
    cases htimeout.symm.trans hp
    cases hcolour.symm.trans hq
    exact ⟨by decide, by decide⟩
  have hload : load (some deskFile) deskVariables = .ok desk := by
    unfold load
    rw [hapart.ofEnvironment_eq_treeOf (.refl _)]
    exact except_eq_ok_of_toOption (by decide +kernel)
  -- The tree of the file is not needed, only that there is one.
  obtain ⟨lower, hfile, -⟩ := except_bind_eq_ok.1 hload
  obtain ⟨-, horder, -, hleaves⟩ := load_isLayered hload hfile hapart
  refine ⟨(horder _ (List.reverse_perm _).symm).1, hleaves _ ⟨List.take_sublist 1 _, ?_, ?_⟩⟩
  · intro path hpath hout leaf hleaf
    rw [hpaths, List.mem_cons, List.mem_singleton] at hpath
    rcases hpath with rfl | rfl
    · exact absurd hleft hout
    · cases hleaf <;> simp [Meets]
  · intro place hplace hreaches
    rw [hunreached place hplace] at hreaches
    cases hreaches

/-- A list stands for a record until a variable sets anything in the record, known or not. In the
name of a variable a dot leads on as two underscores do. -/
theorem unknown_variable_replaces_list :
    (settingPath? "DEVREG_DEFAULTS__FOO" = some ["defaults", "foo"] ∧
      IsUnknown ["defaults", "foo"]) ∧
    load (some "defaults = ['json']") [] = .ok { defaults := { output := "json" } } ∧
    load (some "defaults = ['json']") [("DEVREG_DEFAULTS__FOO", "1")] = .ok {} ∧
    load none [("DEVREG_DEFAULTS.TIMEOUT", "7")] = .ok { defaults := { timeout := 7 } } := by
  refine ⟨⟨by decide +kernel, fun leaf hleaf => ?_⟩, ?_, ?_, ?_⟩
  · cases hleaf with
    | @defaults name known =>
      intro hmeets
      obtain rfl : name = "foo" := by simpa [Meets, eq_comm] using hmeets
      exact absurd known (by decide)
    | _ => simp [Meets]
  · exact except_eq_ok_of_toOption (by decide +kernel)
  · exact except_eq_ok_of_toOption (by decide +kernel)
  · exact except_eq_ok_of_toOption (by decide +kernel)

end DeviceRegistry.Settings
