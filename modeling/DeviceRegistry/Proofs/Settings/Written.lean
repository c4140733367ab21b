import DeviceRegistry.Proofs.Settings.Ordered
import DeviceRegistry.Proofs.Settings.Orderless
import DeviceRegistry.Proofs.Settings.Passwords
import DeviceRegistry.Proofs.Toml.RoundTrip

/-!
# `DeviceRegistry.Proofs.Settings.Written`: settings are loaded from what is written for them

A file that is written for settings leaves out what is not set. In a profile nothing else would come
back as a default: all that may be left out is none in a blank profile. Passwords are never written,
so they are gone when the file is loaded. Main statements:

* `decoder_table`: the members that are written for settings mean the settings without passwords.
* `writable_table`: they can be written as a file.
* `exists_table`: all settings can be written that have no number out of range.
* `load_toToml`: settings that have been loaded are loaded from their own file.
-/

set_option autoImplicit false

namespace DeviceRegistry.Settings

open Toml (Writable tablesOf)

variable {name : String} {members : List (String × Toml.Value)}

/-! ### What is written -/

/-- A string that has been written is read as itself, whatever kind of text is expected. -/
theorem string_ofToml (expected s : String) :
    Decoder.text expected (Value.ofToml (.string s)) = .ok s := by
  rw [Value.ofToml]
  rfl

/-- A truth value that has been written is read as itself. -/
theorem boolean_ofToml (b : Bool) : Decoder.boolean (Value.ofToml (.boolean b)) = .ok b := by
  rw [Value.ofToml]
  rfl

/-- A number is written as it is when it is below `2 ^ 63`, and not at all otherwise. -/
theorem wordToml_eq_ok {n : UInt64} {v : Toml.Value} :
    wordToml n = .ok v ↔ n.toNat < 0x8000000000000000 ∧ v = .integer n.toNat := by
  unfold wordToml
  by_cases hn : n.toNat < 0x8000000000000000
  · rw [if_pos hn]
    simp [hn, eq_comm]
  · rw [if_neg hn]
    simp [hn]

/-- A number that can be written is read as itself, although it is read as an integer with a
sign. -/
theorem word_ofToml {n : UInt64} {v : Toml.Value} (expected : String) (h : wordToml n = .ok v) :
    Decoder.word expected (Value.ofToml v) = .ok n := by
  obtain ⟨hn, rfl⟩ := wordToml_eq_ok.1 h
  have hpositive : ¬ Int64.ofInt n.toNat < 0 := by
    rw [Int64.lt_iff_toInt_lt, Int64.toInt_ofInt_of_le (by omega) (by omega)]
    exact Int.not_lt.2 (Int.natCast_nonneg _)
  have hword : (Int64.ofInt n.toNat).toUInt64 = n := by
    rw [Int64.ofInt_eq_ofNat, Int64.toUInt64_ofNat', UInt64.ofNat_toNat]
  rw [Value.ofToml]
  show (if Int64.ofInt n.toNat < 0 then _ else Except.ok (Int64.ofInt n.toNat).toUInt64) = _
  rw [if_neg hpositive, hword]

/-- A number that may be left out is written when it is there and can be written. The numbers of the
file have a sign, so half of those of 64 bits cannot be. -/
theorem mapM_wordToml_eq_ok {o : Option UInt64} {v : Option Toml.Value} :
    o.mapM wordToml = .ok v ↔
      (∀ n ∈ o, n.toNat < 0x8000000000000000) ∧ v = o.map fun n => .integer n.toNat := by
  cases o with
  | none => simp [eq_comm]
  | some n =>
    have hmap : (some n).mapM wordToml = (wordToml n).map some := by
      show (wordToml n >>= fun v => .ok (some v)) = _
      cases wordToml n <;> rfl
    rw [hmap, except_map_eq_ok]
    simp only [wordToml_eq_ok, Option.mem_some_iff, forall_eq', Option.map_some]
    refine ⟨?_, ?_⟩
    · rintro ⟨v, ⟨hn, rfl⟩, rfl⟩
      exact ⟨hn, rfl⟩
    · rintro ⟨hn, rfl⟩
      exact ⟨_, ⟨hn, rfl⟩, rfl⟩

/-- The fields of what holds for all profiles can be set in any order. -/
theorem Defaults.isOrderless : Defaults.record.IsOrderless :=
  Record.isOrderless_of_pairwise (by simp [Defaults.record, Field.of_commutes])

/-- The fields of the endpoint can be set in any order. -/
theorem endpoint_isOrderless : endpointRecord.IsOrderless :=
  Record.isOrderless_of_pairwise (by simp [endpointRecord, Field.of_commutes])

/-- The fields of a profile can be set in any order. -/
theorem Profile.isOrderless : Profile.record.IsOrderless :=
  Record.isOrderless_of_pairwise (by simp [Profile.record, Field.of_commutes])

/-- The fields of whole settings can be set in any order. -/
theorem isOrderless : record.IsOrderless :=
  Record.isOrderless_of_pairwise (by simp [record, Field.of_commutes])

/-- What is written for all profiles is read back. The members stand in the order of the fields and
none is left out. -/
theorem Defaults.decoder_table {d : Defaults} (h : d.table = .ok members) :
    Defaults.record.decoder (Value.ofToml (.table members)) = .ok d := by
  obtain ⟨timeout, htimeout, h⟩ := except_bind_eq_ok.1 h
  cases h
  refine Record.decoder_of_members Defaults.isOrderless (by simp)
    (fun _ h => absurd h List.not_mem_nil) ?_
  rw [setMembers_given rfl (string_ofToml _ _), setMembers_given rfl (boolean_ofToml _),
    setMembers_given rfl (word_ofToml _ htimeout)]
  rfl

/-- What is written for the endpoint is read back, with the number as it was. There is nothing in it
that could be left out. -/
theorem endpoint_decoder_table {c : Management.EndpointConfig} (h : endpointTable c = .ok members) :
    endpointRecord.decoder (Value.ofToml (.table members)) = .ok c := by
  obtain ⟨size, hsize, h⟩ := except_bind_eq_ok.1 h
  cases h
  refine Record.decoder_of_members endpoint_isOrderless (by simp)
    (fun _ h => absurd h List.not_mem_nil) ?_
  rw [setMembers_given rfl (string_ofToml _ _), setMembers_given rfl (word_ofToml _ hsize),
    setMembers_given rfl (string_ofToml _ _)]
  rfl

/-- The names of the members that are written for a profile: some of these, in this order. The name
for the password is not among them. -/
theorem Profile.names_table {p : Profile} (h : p.table = .ok members) :
    (members.map Prod.fst).Sublist ["registry", "tenant", "api_version", "username", "password_env",
      "ca_cert", "insecure", "timeout"] := by
  obtain ⟨timeout, -, h⟩ := except_bind_eq_ok.1 h
  cases h
  have hpresent : ∀ (name : String) (v : Option Toml.Value),
      ((present name v).map Prod.fst).Sublist [name] := by
    intro name v
    cases v with
    | none => exact List.nil_sublist _
    | some v => exact List.Sublist.refl _
  rw [List.map_cons]
  refine .cons_cons _ ?_
  simp only [List.map_append]
  exact ((((((hpresent _ _).append (hpresent _ _)).append (hpresent _ _)).append
    (hpresent _ _)).append (hpresent _ _)).append (hpresent _ _)).append (hpresent _ _)

/-- No member of a profile is written twice. So a reader that refuses repeated keys accepts it. -/
theorem Profile.nodup_table {p : Profile} (h : p.table = .ok members) :
    (members.map Prod.fst).Nodup :=
  (Profile.names_table h).nodup (by simp)

/-- What is written for a profile is read back as the profile without its password. A member that is
left out was none, as it is in the blank profile. -/
theorem Profile.decoder_table {p : Profile} (h : p.table = .ok members) :
    Profile.record.decoder (Value.ofToml (.table members)) = .ok p.withoutPassword := by
  have hnames := Profile.nodup_table h
  obtain ⟨timeout, htimeout, h⟩ := except_bind_eq_ok.1 h
  obtain ⟨hfits, rfl⟩ := mapM_wordToml_eq_ok.1 htimeout
  cases h
  refine Record.decoder_of_members Profile.isOrderless hnames (by simp [Profile.record]) ?_
  -- One member after the other sets its field, in the order of the file.
  simp only [List.append_assoc]
  rw [setMembers_given rfl (string_ofToml _ _)]
  rw [setMembers_present p.tenant rfl (fun _ _ => string_ofToml _ _) rfl]
  rw [setMembers_present p.apiVersion rfl (fun _ _ => string_ofToml _ _) rfl]
  rw [setMembers_present p.userName rfl (fun _ _ => string_ofToml _ _) rfl]
  rw [setMembers_present p.passwordVariable rfl (fun _ _ => string_ofToml _ _) rfl]
  rw [setMembers_present p.caCertificate rfl (fun _ _ => string_ofToml _ _) rfl]
  rw [setMembers_present p.insecure rfl (fun _ _ => boolean_ofToml _) rfl]
  rw [← List.append_nil (present "timeout" _)]
  rw [setMembers_present p.timeout rfl
    (fun n hn => word_ofToml _ (wordToml_eq_ok.2 ⟨hfits n hn, rfl⟩)) rfl]
  rfl

/-! ### Profiles -/

/-- Profiles as members of a table. -/
def profilesTable (profiles : List (String × Profile)) :
    Except WriteError (List (String × Toml.Value)) :=
  profiles.mapM fun m => do return (m.1, .table (← m.2.table))

section

variable {profiles : List (String × Profile)} {written : List (String × Toml.Value)}

/-- What is written for profiles are tables under their names, in the order of the profiles. So the
names in the file are all different when those of the profiles are. -/
theorem exists_tablesOf (h : profilesTable profiles = .ok written) :
    ∃ tables, written = tablesOf tables ∧ tables.map Prod.fst = profiles.map Prod.fst ∧
      ∀ t ∈ tables, ∃ p : Profile, p.table = .ok t.2 := by
  induction profiles generalizing written with
  | nil =>
    cases h
    exact ⟨[], rfl, rfl, fun _ ht => nomatch ht⟩
  | cons m profiles ih =>
    obtain ⟨name, p⟩ := m
    rw [profilesTable, List.mapM_cons] at h
    obtain ⟨first, hfirst, h⟩ := except_bind_eq_ok.1 h
    obtain ⟨rest, hrest, h⟩ := except_bind_eq_ok.1 h
    obtain ⟨members, hmembers, hm⟩ := except_bind_eq_ok.1 hfirst
    obtain ⟨tables, rfl, hnames, htables⟩ := ih hrest
    cases h
    cases hm
    refine ⟨(name, members) :: tables, rfl, congrArg (name :: ·) hnames, ?_⟩
    exact List.forall_mem_cons.2 ⟨⟨p, hmembers⟩, htables⟩

/-- Profiles are decoded in the order in which they are written, and each without its password,
which is never written. -/
theorem members_profilesTable (h : profilesTable profiles = .ok written) :
    Decoder.members Profile.record.decoder (.table (asTable written)) =
      .ok (withoutEach profiles) := by
  -- One profile after the other, each of which is written before the rest and read before it.
  induction profiles generalizing written with
  | nil =>
    cases h
    rfl
  | cons m profiles ih =>
    obtain ⟨name, p⟩ := m
    rw [profilesTable, List.mapM_cons] at h
    obtain ⟨first, hfirst, h⟩ := except_bind_eq_ok.1 h
    obtain ⟨rest, hrest, h⟩ := except_bind_eq_ok.1 h
    obtain ⟨members, hmembers, hm⟩ := except_bind_eq_ok.1 hfirst
    have hothers := ih hrest
    cases h
    cases hm
    unfold Decoder.members at hothers ⊢
    dsimp only at hothers ⊢
    show List.mapM _ ((name, Value.ofToml (.table members)) :: asTable rest) = _
    rw [List.mapM_cons, hothers]
    dsimp only
    rw [Profile.decoder_table hmembers]
    rfl

end

/-! ### Whole settings -/

variable {s : Settings}

/-- What is written for settings means these settings without their passwords. The default profile
has to be there, because it would come back as a default otherwise. -/
theorem decoder_table (hs : s.Loadable) (h : s.table = .ok members) :
    record.decoder (Value.ofToml (.table members)) = .ok s.withoutPasswords := by
  obtain ⟨defaults, hdefaults, h⟩ := except_bind_eq_ok.1 h
  obtain ⟨endpoint, hendpoint, h⟩ := except_bind_eq_ok.1 h
  obtain ⟨profiles, hprofiles, h⟩ := except_bind_eq_ok.1 h
  obtain ⟨name, hname⟩ := Option.isSome_iff_exists.1 hs.hasDefault
  obtain ⟨tables, htables, hnames, -⟩ := exists_tablesOf hprofiles
  rw [hname] at h
  cases h
  -- The profiles are read back in the order of their names, which is the one they have.
  have hsorted : (profiles.map Prod.fst).Pairwise (· < ·) := by
    have hfst : profiles.map Prod.fst = s.profiles.map Prod.fst := by
      rw [← hnames, htables, tablesOf, List.map_map]
      rfl
    rw [hfst]
    exact hs.sorted
  have hmembers : Decoder.members Profile.record.decoder (Value.ofToml (.table profiles)) =
      .ok (withoutEach s.profiles) := by
    rw [Value.ofToml, ofTomlMembers_of_sorted hsorted]
    exact members_profilesTable hprofiles
  have hdefault : Decoder.optional .string (Value.ofToml (.string name)) = .ok (some name) := by
    rw [Value.ofToml]
    rfl
  refine Record.decoder_of_members isOrderless (by simp [present])
    (fun _ h => absurd h List.not_mem_nil) ?_
  show Record.setMembers _ (asTable [("default_profile", _), _, _, _]) _ = _
  rw [setMembers_given rfl hdefault, setMembers_given rfl (Defaults.decoder_table hdefaults),
    setMembers_given rfl (endpoint_decoder_table hendpoint), setMembers_given rfl hmembers]
  show Except.ok { s.withoutPasswords with defaultProfile := some name } = _
  rw [← hname]
  rfl

/-- A table that has only plain values can be written. It needs no level of its own, as it has no
table inside. -/
theorem writable_of_plain {levels : Nat} (hplain : ∀ m ∈ members, m.2.IsPlain)
    (hnames : (members.map Prod.fst).Nodup) : Writable (levels + 1) members := by
  have hmembers : members ++ tablesOf [] = members := List.append_nil members
  have h := @Writable.intro levels members [] hplain (fun _ h => absurd h List.not_mem_nil)
    (by rwa [hmembers])
  rwa [hmembers] at h

/-- A number that can be written is a plain value. So it stands on a line of its own. -/
theorem isPlain_of_wordToml {n : UInt64} {v : Toml.Value} (h : wordToml n = .ok v) : v.IsPlain := by
  obtain ⟨hn, rfl⟩ := wordToml_eq_ok.1 h
  show (_ : Int) ≤ _ ∧ _ < (_ : Int)
  omega

/-- The table of what holds for all profiles can be written. -/
theorem Defaults.writable_table {d : Defaults} {levels : Nat} (h : d.table = .ok members) :
    Writable (levels + 1) members := by
  obtain ⟨timeout, htimeout, h⟩ := except_bind_eq_ok.1 h
  cases h
  refine writable_of_plain ?_ (by simp)
  simp only [List.forall_mem_cons, List.not_mem_nil, false_imp_iff, implies_true, and_true]
  exact ⟨trivial, trivial, isPlain_of_wordToml htimeout⟩

/-- The table of the endpoint can be written, at any level, as there are plain values in it only. -/
theorem endpoint_writable_table {c : Management.EndpointConfig} {levels : Nat}
    (h : endpointTable c = .ok members) : Writable (levels + 1) members := by
  obtain ⟨size, hsize, h⟩ := except_bind_eq_ok.1 h
  cases h
  refine writable_of_plain ?_ (by simp)
  simp only [List.forall_mem_cons, List.not_mem_nil, false_imp_iff, implies_true, and_true]
  exact ⟨trivial, isPlain_of_wordToml hsize, trivial⟩

/-- The table of a profile can be written, whichever of its members are left out: it has plain
values only, under names that are all different. -/
theorem Profile.writable_table {p : Profile} {levels : Nat} (h : p.table = .ok members) :
    Writable (levels + 1) members := by
  have hnames := Profile.nodup_table h
  obtain ⟨timeout, htimeout, h⟩ := except_bind_eq_ok.1 h
  obtain ⟨hfits, rfl⟩ := mapM_wordToml_eq_ok.1 htimeout
  cases h
  refine writable_of_plain ?_ hnames
  have hpresent : ∀ {α : Type} (name : String) (o : Option α) (write : α → Toml.Value),
      (∀ a ∈ o, (write a).IsPlain) → ∀ m ∈ present name (o.map write), m.2.IsPlain := by
    intro α name o write hwrite m hm
    cases o with
    | none => cases hm
    | some a =>
      cases List.mem_singleton.1 hm
      exact hwrite a rfl
  have htext : ∀ name (o : Option String), ∀ m ∈ present name (o.map .string), m.2.IsPlain :=
    fun name o => hpresent name o .string fun _ _ => trivial
  have hinsecure := hpresent "insecure" p.insecure .boolean fun _ _ => trivial
  have htimeout := hpresent "timeout" p.timeout (fun n => .integer n.toNat) fun n hn =>
    isPlain_of_wordToml (wordToml_eq_ok.2 ⟨hfits n hn, rfl⟩)
  intro m hm
  simp only [List.mem_cons, List.mem_append] at hm
  -- Any of the members may be missing. Those that are there are plain.
  rcases hm with rfl | (((((hm | hm) | hm) | hm) | hm) | hm) | hm
  case inl => exact trivial
  case inr.inl.inr => exact hinsecure m hm
  case inr.inr => exact htimeout m hm
  all_goals exact htext _ _ m hm

/-- What is written for settings can be written as a file: plain values first, then tables, at most
three deep. The three are the settings, the profiles and a profile. -/
theorem writable_table (hs : s.Loadable) (h : s.table = .ok members) : Writable 3 members := by
  obtain ⟨defaults, hdefaults, h⟩ := except_bind_eq_ok.1 h
  obtain ⟨endpoint, hendpoint, h⟩ := except_bind_eq_ok.1 h
  obtain ⟨profiles, hprofiles, h⟩ := except_bind_eq_ok.1 h
  obtain ⟨name, hname⟩ := Option.isSome_iff_exists.1 hs.hasDefault
  obtain ⟨tables, rfl, hnames, htables⟩ := exists_tablesOf hprofiles
  rw [hname] at h
  cases h
  have hfst : (tablesOf tables).map Prod.fst = s.profiles.map Prod.fst := by
    rw [← hnames, tablesOf, List.map_map]
    rfl
  have hnodup : ((tablesOf tables).map Prod.fst).Nodup := by
    rw [hfst]
    refine hs.sorted.imp ?_
    rintro a b hab rfl
    exact String.lt_irrefl a hab
  -- Three levels: the settings, the profiles, and what is in each of them.
  have hbelow : Writable 2 (tablesOf tables) := by
    refine @Writable.intro 1 [] tables (fun _ h => absurd h List.not_mem_nil) ?_ hnodup
    intro t ht
    obtain ⟨p, hp⟩ := htables t ht
    exact Profile.writable_table hp
  refine @Writable.intro 2 [("default_profile", .string name)]
    [("defaults", defaults), ("endpoint", endpoint), ("profiles", tablesOf tables)] ?_ ?_
    (by simp [tablesOf])
  · simp only [List.forall_mem_singleton]
    exact trivial
  · simp only [List.forall_mem_cons, List.not_mem_nil, false_imp_iff, implies_true, and_true]
    exact ⟨Defaults.writable_table hdefaults, endpoint_writable_table hendpoint, hbelow⟩

/-! ### Numbers -/

/-- The numbers of settings. -/
def words (s : Settings) : List UInt64 :=
  s.defaults.timeout :: s.endpoint.maxPayloadSize :: s.profiles.filterMap fun m => m.2.timeout

section

variable {α β γ ε : Type}

/-- What ends with a result has one when what it starts with does. -/
theorem exists_bind_ok {x : Except ε α} {f : α → β} :
    (∃ b, (x >>= fun a => .ok (f a)) = .ok b) ↔ ∃ a, x = .ok a := by
  cases x with
  | error e => simp
  | ok a => simp

/-- A list is gone through when each of its items succeeds. -/
theorem exists_mapM_eq_ok {f : α → Except ε β} {l : List α} :
    (∃ l', l.mapM f = .ok l') ↔ ∀ a ∈ l, ∃ b, f a = .ok b := by
  induction l with
  | nil => exact ⟨fun _ _ h => (nomatch h), fun _ => ⟨[], rfl⟩⟩
  | cons a l ih =>
    rw [List.forall_mem_cons, ← ih, List.mapM_cons]
    cases f a with
    | error e => simp
    | ok b => cases l.mapM f <;> simp

end

/-- A number can be written when it is below `2 ^ 63`. -/
theorem exists_wordToml {n : UInt64} :
    (∃ v, wordToml n = .ok v) ↔ n.toNat < 0x8000000000000000 := by
  simp [wordToml_eq_ok]

/-- A profile can be written when its timeout can. All its other members are texts and truth values.
-/
theorem Profile.exists_table {p : Profile} :
    (∃ members, p.table = .ok members) ↔ ∀ n ∈ p.timeout, n.toNat < 0x8000000000000000 := by
  refine exists_bind_ok.trans ?_
  simp [mapM_wordToml_eq_ok]

/-- Settings can be written when their numbers can. Nothing else about settings can stand in the way
of a table, since every text can be quoted. -/
theorem exists_table :
    (∃ members, s.table = .ok members) ↔ ∀ n ∈ s.words, n.toNat < 0x8000000000000000 := by
  have hdefaults : (∃ members, s.defaults.table = .ok members) ↔
      s.defaults.timeout.toNat < 0x8000000000000000 := exists_bind_ok.trans exists_wordToml
  have hendpoint : (∃ members, endpointTable s.endpoint = .ok members) ↔
      s.endpoint.maxPayloadSize.toNat < 0x8000000000000000 := exists_bind_ok.trans exists_wordToml
  -- Of a profile only the timeout is a number.
  have hprofiles : (∃ written, profilesTable s.profiles = .ok written) ↔
      ∀ n ∈ s.profiles.filterMap fun m => m.2.timeout, n.toNat < 0x8000000000000000 := by
    have hprofile : ∀ m : String × Profile, (∃ written,
        (do return (m.1, Toml.Value.table (← m.2.table))) = Except.ok (ε := WriteError) written) ↔
        ∀ n ∈ m.2.timeout, n.toNat < 0x8000000000000000 := fun _ =>
      exists_bind_ok.trans Profile.exists_table
    rw [profilesTable, exists_mapM_eq_ok]
    refine ⟨fun h n hn => ?_, fun h m hm => ?_⟩
    · obtain ⟨m, hm, htimeout⟩ := List.mem_filterMap.1 hn
      exact (hprofile m).1 (h m hm) n htimeout
    · exact (hprofile m).2 fun n hn => h n (List.mem_filterMap.2 ⟨m, hm, hn⟩)
  unfold words
  rw [List.forall_mem_cons, List.forall_mem_cons, ← hdefaults, ← hendpoint, ← hprofiles]
  unfold table
  cases s.defaults.table with
  | error e => simp
  | ok defaults =>
    cases endpointTable s.endpoint with
    | error e => simp
    | ok endpoint =>
      refine (exists_bind_ok (x := profilesTable s.profiles)).trans ?_
      simp

/-- Settings with a number that is too large are not written, and the number is what the error
says. -/
theorem toToml_eq_error (h : ¬ ∀ n ∈ s.words, n.toNat < 0x8000000000000000) :
    s.toToml = .error .wordOutOfRange := by
  rw [toToml]
  cases htable : s.table with
  | error e =>
    cases e
    rfl
  | ok members => exact absurd (exists_table.1 ⟨members, htable⟩) h

/-! ### Loading -/

/-- Variables that are no settings say nothing, however many there are. So loading what was written
gives what the file says, in a place without settings in its variables. -/
theorem ofEnvironment_eq_nil {env : Environment} (h : ∀ x ∈ env, settingPath? x.1 = none) :
    ofEnvironment env = .table [] := by
  have htrees : (env.mergeSort fun a b => a.1 ≤ b.1).filterMap (fun x =>
      (settingPath? x.1).map fun path => Value.under path (Value.ofText x.2)) = [] := by
    rw [List.filterMap_eq_nil_iff]
    intro x hx
    have hpath := h x (List.mem_mergeSort.1 hx)
    rw [hpath]
    rfl
  exact congrArg (List.foldl (fun lower upper => upper.laidOver lower) (.table [])) htrees

/-- Settings are loaded from their own file without their passwords: the text parses to the members
that were written, which mean the settings. -/
theorem load_toToml {text : String} {env : Environment} (hs : s.Loadable)
    (htext : s.toToml = .ok text) (henv : ∀ x ∈ env, settingPath? x.1 = none) :
    load (some text) env = .ok s.withoutPasswords := by
  obtain ⟨members, htable, rfl⟩ := except_map_eq_ok.1 htext
  have hparse := (writable_table hs htable).parse_render (by decide)
  have hlower : ofFile (some (Toml.render members)) = .ok (Value.ofToml (.table members)) := by
    unfold ofFile
    simp only [hparse]
    rw [Value.ofToml]
  have hupper : (Value.table []).laidOver (Value.ofToml (.table members)) =
      Value.ofToml (.table members) := by
    rw [Value.ofToml]
    rfl
  rw [load, hlower, except_bind_ok, ofEnvironment_eq_nil henv, hupper, decoder_table hs htable]
  rfl

/-- What has been loaded is written as a file when its numbers fit, and that file, without any
variable, is loaded as the same but for the passwords. -/
theorem load_toToml_of_load {file : Option String} {env : Environment} {s : Settings}
    (h : load file env = .ok s) :
    ((∀ n ∈ s.words, n.toNat < 0x8000000000000000) → ∃ text, s.toToml = .ok text ∧
      ∀ env' : Environment, (∀ x ∈ env', settingPath? x.1 = none) →
        load (some text) env' = .ok s.withoutPasswords) ∧
    ((∃ n ∈ s.words, 0x8000000000000000 ≤ n.toNat) → s.toToml = .error .wordOutOfRange) := by
  have hs := load_loadable h
  refine ⟨?_, ?_⟩
  · intro hfits
    obtain ⟨members, htable⟩ := exists_table.2 hfits
    have htext : s.toToml = .ok (Toml.render members) := by
      rw [toToml, htable]
      rfl
    exact ⟨_, htext, fun env' henv => load_toToml hs htext henv⟩
  · rintro ⟨n, hn, hlarge⟩
    refine toToml_eq_error fun hfits => ?_
    have hsmall := hfits n hn
    omega

/-- A file with a password. -/
def labFile : String :=
  "[profiles.'the lab']\nregistry = 'http://lab'\npassword = 'secret'\ntimeout = 5\n"

/-- What is loaded from it with a variable for the timeout of all profiles. -/
def lab (timeout : UInt64) : Settings where
  defaults := { timeout := timeout }
  profiles :=
    [("the lab", { registry := "http://lab", password := some "secret", timeout := some 5 })]

/-- A file with a quoted profile name, a password and a timeout that a variable sets: written and
loaded without the password, and not written when the timeout has 64 bits. -/
theorem load_toToml_of_load_lab :
    (∃ text, (lab 60).toToml = .ok text ∧
      load (some text) [("HOME", "/root")] = .ok (lab 60).withoutPasswords) ∧
    (lab 0x8000000000000000).toToml = .error .wordOutOfRange := by
  have hsmall : load (some labFile) [("DEVREG_DEFAULTS__TIMEOUT", "60")] = .ok (lab 60) :=
    except_eq_ok_of_toOption (by decide +kernel)
  have hlarge : load (some labFile) [("DEVREG_DEFAULTS__TIMEOUT", "9223372036854775808")] =
      .ok (lab 0x8000000000000000) := except_eq_ok_of_toOption (by decide +kernel)
  refine ⟨?_, (load_toToml_of_load hlarge).2 ⟨_, List.mem_cons_self, by decide⟩⟩
  obtain ⟨text, htext, hload⟩ := (load_toToml_of_load hsmall).1 (by simp [words, lab])
  exact ⟨text, htext, hload _ (by decide +kernel)⟩

end DeviceRegistry.Settings
