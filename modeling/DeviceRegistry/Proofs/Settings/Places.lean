import DeviceRegistry.Proofs.Settings.Fields
import DeviceRegistry.Proofs.Settings.Written

/-!
# `DeviceRegistry.Proofs.Settings.Places`: what is said of settings at each place

Settings are decoded place by place (`IsSaidBy`): the default profile, two records that may be left
out, and a table of profiles, each of which must say its registry. What is said of the fields of
each record is spelled out with the values that are built in. Main statements:

* `Defaults.reads_iff`, `endpoint_reads_iff`, `Profile.reads_iff`: the records, field by field.
* `members_gives_iff`: a table of members that are decoded alike.
* `decoder_eq_ok_iff`: whole settings, place by place.
-/

set_option autoImplicit false

namespace DeviceRegistry.Settings

variable {α : Type} {name : String} {v : Value} {ms : Table} {said : String → Option Value}

/-! ### The records of settings -/

/-- What is said of what holds for all profiles. -/
structure Defaults.IsSaid (said : String → Option Value) (d : Defaults) : Prop where
  output : Decoder.string.Gives "table" (said "output") d.output
  insecure : Decoder.boolean.Gives false (said "insecure") d.insecure
  timeout : (Decoder.word "u64").Gives 30 (said "timeout") d.timeout

/-- What is said of the endpoint. -/
structure EndpointIsSaid (said : String → Option Value) (c : Management.EndpointConfig) :
    Prop where
  apiVersion : Decoder.string.Gives "v1" (said "api_version") c.apiVersion
  maxPayloadSize : (Decoder.word "usize").Gives 2048 (said "max_payload_size") c.maxPayloadSize
  corsAllowedOrigin : Decoder.string.Gives "*" (said "cors_allowed_origin") c.corsAllowedOrigin

/-- What is said of a profile. Its registry has no built-in value. -/
structure Profile.IsSaid (said : String → Option Value) (p : Profile) : Prop where
  registry : ∃ v, said "registry" = some v ∧ Decoder.string v = .ok p.registry
  tenant : (Decoder.optional .string).Gives none (said "tenant") p.tenant
  apiVersion : (Decoder.optional .string).Gives none (said "api_version") p.apiVersion
  userName : (Decoder.optional .string).Gives none (said "username") p.userName
  password : (Decoder.optional .string).Gives none (said "password") p.password
  passwordVariable : (Decoder.optional .string).Gives none (said "password_env") p.passwordVariable
  caCertificate : (Decoder.optional .path).Gives none (said "ca_cert") p.caCertificate
  insecure : (Decoder.optional .boolean).Gives none (said "insecure") p.insecure
  timeout : (Decoder.optional (.word "u64")).Gives none (said "timeout") p.timeout

/-- The record of what holds for all profiles is lawful: its fields commute, and none is
required. -/
theorem Defaults.isLawful : Defaults.record.IsLawful :=
  ⟨Defaults.isOrderless, by decide, fun _ h => nomatch h⟩

/-- The record of the endpoint is lawful, and none of its fields is required either. -/
theorem endpoint_isLawful : endpointRecord.IsLawful :=
  ⟨endpoint_isOrderless, by decide, fun _ h => nomatch h⟩

/-- The record of a profile is lawful. Its registry is required and comes first, so that no list may
end before it. -/
theorem Profile.isLawful : Profile.record.IsLawful := by
  refine ⟨Profile.isOrderless, by decide, ?_⟩
  intro name hname
  cases List.mem_singleton.1 hname
  exact ⟨_, List.mem_cons_self, rfl, rfl⟩

/-- The record of whole settings is lawful: its fields have different names, and each sets what is
its own. -/
theorem isLawful : record.IsLawful := ⟨isOrderless, by decide, fun _ h => nomatch h⟩

/-- No field of what holds for all profiles can be a table. -/
theorem Defaults.isFlat : Defaults.record.IsFlat := by
  simp [Record.IsFlat, Defaults.record, Field.of, Decoder.string, Decoder.text, Decoder.boolean,
    Decoder.word, here]

/-- No field of the endpoint can be a table. So a variable that goes on below one of them hides it.
-/
theorem endpoint_isFlat : endpointRecord.IsFlat := by
  simp [Record.IsFlat, endpointRecord, Field.of, Decoder.string, Decoder.text, Decoder.word, here]

/-- No field of a profile can be a table. So a variable cannot set anything inside a field. -/
theorem Profile.isFlat : Profile.record.IsFlat := by
  simp [Record.IsFlat, Profile.record, Field.of, Decoder.optional, Decoder.string, Decoder.path,
    Decoder.text, Decoder.boolean, Decoder.word, here]

/-- The generic reading of a record is spelled out for what holds for all profiles: three fields and
what is built in for each. -/
theorem Defaults.reads_iff {d : Defaults} : Defaults.record.Reads said d ↔ d.IsSaid said := by
  constructor
  · rintro ⟨-, h⟩
    obtain ⟨output, houtput, h⟩ := (Record.assign_of "table" (by rfl)).1 h
    obtain ⟨insecure, hinsecure, h⟩ := (Record.assign_of false (by rfl)).1 h
    obtain ⟨timeout, htimeout, h⟩ := (Record.assign_of 30 (by rfl)).1 h
    cases h
    exact ⟨houtput, hinsecure, htimeout⟩
  · intro h
    refine ⟨fun _ h => (nomatch h), ?_⟩
    refine (Record.assign_of "table" (by rfl)).2 ⟨_, h.output, ?_⟩
    refine (Record.assign_of false (by rfl)).2 ⟨_, h.insecure, ?_⟩
    exact (Record.assign_of 30 (by rfl)).2 ⟨_, h.timeout, rfl⟩

/-- The generic reading of a record is spelled out for the endpoint: each of its fields is said at
its own path, or has its default. -/
theorem endpoint_reads_iff {c : Management.EndpointConfig} :
    endpointRecord.Reads said c ↔ EndpointIsSaid said c := by
  constructor
  · rintro ⟨-, h⟩
    obtain ⟨version, hversion, h⟩ := (Record.assign_of "v1" (by rfl)).1 h
    obtain ⟨size, hsize, h⟩ := (Record.assign_of 2048 (by rfl)).1 h
    obtain ⟨origin, horigin, h⟩ := (Record.assign_of "*" (by rfl)).1 h
    cases h
    exact ⟨hversion, hsize, horigin⟩
  · intro h
    refine ⟨fun _ h => (nomatch h), ?_⟩
    refine (Record.assign_of "v1" (by rfl)).2 ⟨_, h.apiVersion, ?_⟩
    refine (Record.assign_of 2048 (by rfl)).2 ⟨_, h.maxPayloadSize, ?_⟩
    exact (Record.assign_of "*" (by rfl)).2 ⟨_, h.corsAllowedOrigin, rfl⟩

/-- The generic reading of a record is spelled out for a profile. The registry has no built-in
value: that it must be said gives its value here. -/
theorem Profile.reads_iff {p : Profile} : Profile.record.Reads said p ↔ p.IsSaid said := by
  -- The fields are peeled off one by one, in the order of the record.
  constructor
  · rintro ⟨hrequired, h⟩
    obtain ⟨w, hw⟩ := hrequired "registry" List.mem_cons_self
    obtain ⟨registry, hregistry, h⟩ := (Record.assign_of "" (by rfl)).1 h
    obtain ⟨tenant, htenant, h⟩ := (Record.assign_of none (by rfl)).1 h
    obtain ⟨version, hversion, h⟩ := (Record.assign_of none (by rfl)).1 h
    obtain ⟨userName, huser, h⟩ := (Record.assign_of none (by rfl)).1 h
    obtain ⟨password, hpassword, h⟩ := (Record.assign_of none (by rfl)).1 h
    obtain ⟨passwordVariable, hvariable, h⟩ := (Record.assign_of none (by rfl)).1 h
    obtain ⟨certificate, hcertificate, h⟩ := (Record.assign_of none (by rfl)).1 h
    obtain ⟨insecure, hinsecure, h⟩ := (Record.assign_of none (by rfl)).1 h
    obtain ⟨timeout, htimeout, h⟩ := (Record.assign_of none (by rfl)).1 h
    cases h
    rw [hw] at hregistry
    exact ⟨⟨w, hw, hregistry⟩, htenant, hversion, huser, hpassword, hvariable, hcertificate,
      hinsecure, htimeout⟩
  · intro h
    obtain ⟨w, hw, hregistry⟩ := h.registry
    refine ⟨fun name hname => ⟨w, List.mem_singleton.1 hname ▸ hw⟩, ?_⟩
    refine (Record.assign_of "" (by rfl)).2 ⟨p.registry, by rw [hw]; exact hregistry, ?_⟩
    refine (Record.assign_of none (by rfl)).2 ⟨_, h.tenant, ?_⟩
    refine (Record.assign_of none (by rfl)).2 ⟨_, h.apiVersion, ?_⟩
    refine (Record.assign_of none (by rfl)).2 ⟨_, h.userName, ?_⟩
    refine (Record.assign_of none (by rfl)).2 ⟨_, h.password, ?_⟩
    refine (Record.assign_of none (by rfl)).2 ⟨_, h.passwordVariable, ?_⟩
    refine (Record.assign_of none (by rfl)).2 ⟨_, h.caCertificate, ?_⟩
    refine (Record.assign_of none (by rfl)).2 ⟨_, h.insecure, ?_⟩
    exact (Record.assign_of none (by rfl)).2 ⟨_, h.timeout, rfl⟩

/-! ### Profiles -/

section

variable {l : List (String × α)} {d : Decoder α} {o : Option Value} {names names' : List String}

/-- Names in order are the same when they are the same in any order, so a list of profiles is told
by which of them there are. -/
theorem names_ext (h : names.Pairwise (· < ·)) (h' : names'.Pairwise (· < ·))
    (hmem : ∀ name, name ∈ names ↔ name ∈ names') : names = names' :=
  List.Perm.eq_of_pairwise (fun _ _ _ _ hab hba => absurd hba (String.lt_asymm hab)) h h'
    ((List.perm_ext_iff_of_nodup (nodup_of_sorted h) (nodup_of_sorted h')).2 hmem)

/-- A name is found in a list when it is one of its names. -/
theorem isSome_lookup_iff {β : Type} {as : List (String × β)} :
    (as.lookup name).isSome = true ↔ name ∈ as.map Prod.fst := by
  simp [List.lookup_isSome_iff]

/-- The first member is decoded first, and decoding goes on with the others. With it a statement on
all members is proved by induction on the table. -/
theorem members_cons_eq_ok {k : String} :
    Decoder.members d (.table ((k, v) :: ms)) = .ok l ↔
      ∃ a, d v = .ok a ∧ ∃ l', Decoder.members d (.table ms) = .ok l' ∧ (k, a) :: l' = l := by
  unfold Decoder.members
  dsimp only
  rw [List.mapM_cons]
  simp only [except_bind_eq_ok, except_pure, below, except_mapError_eq_ok, Except.ok.injEq]
  constructor
  · rintro ⟨_, ⟨a, ha, rfl⟩, l', hl', rfl⟩
    exact ⟨a, ha, l', hl', rfl⟩
  · rintro ⟨a, ha, l', hl', rfl⟩
    exact ⟨_, ⟨a, ha, rfl⟩, l', hl', rfl⟩

/-- Members are decoded one by one: the names are kept, and each value is decoded from what its name
had. The names must be different, for a lookup to find each of them. -/
theorem members_eq_ok_iff (hnodup : (ms.map Prod.fst).Nodup) :
    Decoder.members d (.table ms) = .ok l ↔ l.map Prod.fst = ms.map Prod.fst ∧
      ∀ name a, l.lookup name = some a → ∃ v, ms.lookup name = some v ∧ d v = .ok a := by
  induction ms generalizing l with
  | nil =>
    show Except.ok [] = Except.ok l ↔ l.map Prod.fst = [] ∧ _
    rw [List.map_eq_nil_iff, Except.ok.injEq]
    constructor
    · rintro rfl
      exact ⟨rfl, fun _ _ h => nomatch h⟩
    · rintro ⟨rfl, -⟩
      rfl
  | cons m ms ih =>
    obtain ⟨k, v⟩ := m
    obtain ⟨hname, hrest⟩ := List.nodup_cons.1 hnodup
    rw [members_cons_eq_ok]
    constructor
    · rintro ⟨a, ha, l', hl', rfl⟩
      obtain ⟨hnames, hall⟩ := (ih hrest).1 hl'
      refine ⟨congrArg (k :: ·) hnames, fun name b hb => ?_⟩
      rw [lookup_cons_ite] at hb ⊢
      by_cases hk : name = k
      · rw [if_pos hk] at hb ⊢
        cases hb
        exact ⟨v, rfl, ha⟩
      · rw [if_neg hk] at hb ⊢
        exact hall name b hb
    · rintro ⟨hnames, hall⟩
      cases l with
      | nil => cases hnames
      | cons m l =>
        obtain ⟨k', a⟩ := m
        rw [List.map_cons, List.map_cons, List.cons.injEq] at hnames
        obtain ⟨hk, hnames⟩ := hnames
        obtain rfl : k' = k := hk
        obtain ⟨w, hw, ha⟩ := hall k' a List.lookup_cons_self
        rw [List.lookup_cons_self] at hw
        cases hw
        refine ⟨a, ha, l, (ih hrest).2 ⟨hnames, fun name b hb => ?_⟩, rfl⟩
        -- The name of a later member is not that of the first.
        have hne : name ≠ k' := by
          rintro rfl
          refine hname ?_
          show name ∈ ms.map Prod.fst
          rw [← hnames]
          exact isSome_lookup_iff.1 (Option.isSome_iff_exists.2 ⟨b, hb⟩)
        have hcons := hall name b (by rwa [lookup_cons_ite, if_neg hne])
        rwa [lookup_cons_ite, if_neg hne] at hcons

/-- Members that may be left out altogether, told by their names. This form speaks of lookups only,
so that it can be used for a tree whose members are not written out. -/
theorem members_gives_iff (ho : ∀ v, o = some v → v.Ordered) :
    (Decoder.members d).Gives [] o l ↔ (∀ v, o = some v → ∃ ms, v = .table ms) ∧
      (∀ name, name ∈ l.map Prod.fst ↔ (o.bind (Value.at? [name])).isSome = true) ∧
      (l.map Prod.fst).Pairwise (· < ·) ∧
      ∀ name a, l.lookup name = some a → ∃ v, o.bind (Value.at? [name]) = some v ∧ d v = .ok a := by
  cases o with
  | none =>
    show l = [] ↔ _
    constructor
    · rintro rfl
      exact ⟨fun _ h => (nomatch h), fun _ => ⟨fun h => (nomatch h), fun h => (nomatch h)⟩, .nil,
        fun _ _ h => nomatch h⟩
    · rintro ⟨-, hnames, -⟩
      have hnone : l.map Prod.fst = [] :=
        List.eq_nil_iff_forall_not_mem.2 fun name h => nomatch (hnames name).1 h
      exact List.map_eq_nil_iff.1 hnone
  | some v =>
    show Decoder.members d v = .ok l ↔ _
    -- Only a table is decoded. Its names are sorted, so they are told by which there are.
    by_cases htable : ∃ ms, v = .table ms
    · obtain ⟨ms, rfl⟩ := htable
      have hsorted := (ho _ rfl).sorted
      have hat : ∀ name, (some (Value.table ms)).bind (Value.at? [name]) = ms.lookup name :=
        fun name => Value.at?_single name ms
      rw [members_eq_ok_iff (nodup_of_sorted hsorted)]
      simp only [hat, isSome_lookup_iff]
      constructor
      · rintro ⟨hnames, hall⟩
        refine ⟨?_, fun name => by rw [hnames], by rwa [hnames], hall⟩
        rintro _ ⟨⟩
        exact ⟨ms, rfl⟩
      · rintro ⟨-, hnames, hl, hall⟩
        exact ⟨names_ext hl hsorted hnames, hall⟩
    · constructor
      · intro h
        cases v with
        | table ms => exact absurd ⟨ms, rfl⟩ htable
        | _ => cases h
      · intro h
        exact absurd (h.1 v rfl) htable

end

/-! ### Whole settings -/

/-- What a tree says of settings, place by place. -/
structure IsSaidBy (t : Value) (s : Settings) : Prop where
  defaultProfile : (Decoder.optional .string).Gives (some "default") (t.at? ["default_profile"])
    s.defaultProfile
  defaults : Defaults.record.ReadsFrom (t.at? ["defaults"]) s.defaults
  endpoint : endpointRecord.ReadsFrom (t.at? ["endpoint"]) s.endpoint
  profiles : ∀ v, t.at? ["profiles"] = some v → ∃ ms, v = .table ms
  names : ∀ name, name ∈ s.profiles.map Prod.fst ↔ (t.at? ["profiles", name]).isSome = true
  sorted : (s.profiles.map Prod.fst).Pairwise (· < ·)
  profile : ∀ name p, s.profiles.lookup name = some p →
    Profile.record.ReadsFrom (t.at? ["profiles", name]) p

/-- Settings are decoded place by place: each field of the whole record is decoded from what the
tree has at its place, and the fields do not depend on one another. -/
theorem decoder_eq_ok_iff {s : Settings} (hms : (Value.table ms).Ordered) :
    record.decoder (.table ms) = .ok s ↔ IsSaidBy (.table ms) s := by
  have hat : ∀ name, (Value.table ms).at? [name] = ms.lookup name := fun name =>
    Value.at?_single name ms
  have hdefaults := fun d => Record.gives_iff (r := d) Defaults.isLawful rfl fun v hv =>
    hms.of_at? (p := ["defaults"]) hv
  have hendpoint := fun c => Record.gives_iff (r := c) endpoint_isLawful rfl fun v hv =>
    hms.of_at? (p := ["endpoint"]) hv
  have hprofiles := fun l => members_gives_iff (d := Profile.record.decoder) (l := l) fun v hv =>
    hms.of_at? (p := ["profiles"]) hv
  have hbelow : ∀ name, ((Value.table ms).at? ["profiles"]).bind (Value.at? [name]) =
      (Value.table ms).at? ["profiles", name] := fun name =>
    (Value.at?_append ["profiles"] [name] _).symm
  have hprofile := fun name p => Record.exists_decoder_iff (r := p) Profile.isLawful
    (List.cons_ne_nil _ _) fun v hv => hms.of_at? (p := ["profiles", name]) hv
  simp only [hbelow, hprofile] at hprofiles
  simp only [hat] at hdefaults hendpoint hprofiles
  rw [Record.decoder_eq_ok_iff isLawful hms]
  -- The four fields of the whole record are peeled off, and each one is told by the tree at its
  -- place.
  constructor
  · rintro ⟨-, -, h⟩
    obtain ⟨name, hname, h⟩ := (Record.assign_of (some "default") (by rfl)).1 h
    obtain ⟨defaults, hd, h⟩ := (Record.assign_of {} (by rfl)).1 h
    obtain ⟨endpoint, hc, h⟩ := (Record.assign_of {} (by rfl)).1 h
    obtain ⟨profiles, hl, h⟩ := (Record.assign_of [] (by rfl)).1 h
    cases h
    obtain ⟨htable, hnames, hsorted, hall⟩ := (hprofiles profiles).1 hl
    refine ⟨?_, ?_, ?_, ?_, hnames, hsorted, hall⟩
    · rw [hat]
      exact hname
    · rw [hat]
      exact (hdefaults defaults).1 hd
    · rw [hat]
      exact (hendpoint endpoint).1 hc
    · rw [hat]
      exact htable
  · rintro ⟨hname, hd, hc, htable, hnames, hsorted, hall⟩
    rw [hat] at hname hd hc htable
    refine ⟨trivial, fun _ h => (nomatch h), ?_⟩
    refine (Record.assign_of (some "default") (by rfl)).2 ⟨_, hname, ?_⟩
    refine (Record.assign_of {} (by rfl)).2 ⟨_, (hdefaults s.defaults).2 hd, ?_⟩
    refine (Record.assign_of {} (by rfl)).2 ⟨_, (hendpoint s.endpoint).2 hc, ?_⟩
    exact (Record.assign_of [] (by rfl)).2
      ⟨_, (hprofiles s.profiles).2 ⟨htable, hnames, hsorted, hall⟩, rfl⟩

end DeviceRegistry.Settings
