import DeviceRegistry.Proofs.Settings.Orderless
import DeviceRegistry.Proofs.Settings.Paths

/-!
# `DeviceRegistry.Proofs.Settings.Fields`: what is said of each field

A record is decoded as if its fields were set in turn, each to what is said of it (`Record.assign`).
A table says it by name, a list by position (`Record.given?`). A field of which nothing is said
keeps what is built in (`Decoder.Gives`). For a table this rests on the order of its members not
mattering: the member of the first field can be set first. A list is in that order already. Main
statements:

* `Record.decoder_eq_ok_iff`: decoding is setting the fields in turn.
* `Record.gives_iff`, `Record.exists_decoder_iff`: records that may be left out, and those that may
  not.
* `Record.Reads.not_table`: what is said of a field that is not a record is no table.
-/

set_option autoImplicit false

namespace DeviceRegistry.Settings

variable {ρ α : Type} {name : String} {v : Value} {ms : Table} {said said' : String → Option Value}

/-- Names that are strictly sorted are all different. The members of an ordered table are, so that
no field is set twice. -/
theorem nodup_of_sorted {names : List String} (h : names.Pairwise (· < ·)) : names.Nodup := by
  refine h.imp ?_
  rintro a b hab rfl
  exact String.lt_irrefl a hab

/-! ### Fields -/

/-- What is said of a thing means `a`, which is built in when nothing is said. -/
def Decoder.Gives (d : Decoder α) (builtIn : α) (o : Option Value) (a : α) : Prop :=
  match o with
  | some v => d v = .ok a
  | none => a = builtIn

namespace Record

variable {fields : List (Field ρ)} {f : Field ρ} {r x : ρ}

/-- Sets the fields in turn, each to what is said of it. -/
def assign (said : String → Option Value) : List (Field ρ) → ρ → Except Fault ρ
  | [], r => .ok r
  | f :: fields, r =>
    match said f.name with
    | some v => do assign said fields (← f.set v r)
    | none => assign said fields r

/-- Only what is said of the fields that are there matters when they are set, so a lookup can be
replaced by any other that agrees on their names. -/
theorem assign_congr (h : ∀ f ∈ fields, said f.name = said' f.name) :
    assign said fields r = assign said' fields r := by
  induction fields generalizing r with
  | nil => rfl
  | cons f fields ih =>
    obtain ⟨hfirst, hrest⟩ := List.forall_mem_cons.1 h
    have hcontinue : assign said fields = assign said' fields := funext fun r => ih hrest
    rw [assign, assign, hfirst, hcontinue]

/-- A field of which something is said is set to it, and the rest is set after it, starting from the
record that it leaves. -/
theorem assign_said (h : said f.name = some v) :
    assign said (f :: fields) r = .ok x ↔
      ∃ r₁, f.set v r = .ok r₁ ∧ assign said fields r₁ = .ok x := by
  rw [assign, h]
  exact except_bind_eq_ok

/-- A field of which nothing is said leaves the record as it is. -/
theorem assign_unsaid (h : said f.name = none) :
    assign said (f :: fields) r = assign said fields r := by
  rw [assign, h]

/-- A field that has what is built in is set to what is given. This is how each field of a record is
peeled off when the decoder of the record is opened. -/
theorem assign_of {mayEnd : Bool} {d : Decoder α} {set : α → ρ → ρ} (builtIn : α)
    (hblank : set builtIn r = r) :
    assign said (.of name mayEnd d set :: fields) r = .ok x ↔
      ∃ a, d.Gives builtIn (said name) a ∧ assign said fields (set a r) = .ok x := by
  -- A value is decoded and set. With nothing said, setting what is built in changes nothing.
  cases hsaid : said name with
  | some v =>
    refine (assign_said hsaid).trans ⟨?_, ?_⟩
    · rintro ⟨r₁, hset, hrest⟩
      obtain ⟨a, ha, rfl⟩ := except_map_eq_ok.1 hset
      exact ⟨a, ha, hrest⟩
    · rintro ⟨a, ha, hrest⟩
      exact ⟨_, except_map_eq_ok.2 ⟨a, ha, rfl⟩, hrest⟩
  | none =>
    rw [assign_unsaid hsaid]
    constructor
    · intro hrest
      exact ⟨builtIn, rfl, by rwa [hblank]⟩
    · rintro ⟨a, rfl, hrest⟩
      rwa [hblank] at hrest

/-! ### Records -/

/-- The first field is not set by members without its name: whichever field such a member finds, it
finds behind the first one. -/
theorem setMembers_cons_absent (h : f.name ∉ ms.map Prod.fst) :
    setMembers (f :: fields) ms r = setMembers fields ms r := by
  induction ms generalizing r with
  | nil => rfl
  | cons m ms ih =>
    obtain ⟨k, v⟩ := m
    rw [List.map_cons, List.mem_cons, not_or] at h
    have hfind : (f :: fields).find? (fun f => f.name = k) = fields.find? fun f => f.name = k :=
      List.find?_cons_of_neg (by simpa using h.1)
    rw [setMembers, setMembers, hfind]
    cases fields.find? fun f => f.name = k with
    | none => exact ih h.2
    | some g => exact congrArg (below k (g.set v r) >>= ·) (funext fun _ => ih h.2)

/-- Without any fields, members are passed over: names that are not known are no error. -/
theorem setMembers_no_fields (ms : Table) (r : ρ) : setMembers [] ms r = .ok r := by
  induction ms with
  | nil => rfl
  | cons m ms ih => exact ih

/-- Setting the members of a table is setting the fields in turn. The members come in the order of
their names and the fields in that of the record, but neither matters for fields that commute. -/
theorem setMembers_eq_ok_iff
    (hfields : ∀ f ∈ fields, ∀ g ∈ fields, f.name ≠ g.name → f.Commutes g)
    (hnodup : (fields.map Field.name).Nodup) (hms : (ms.map Prod.fst).Nodup) :
    setMembers fields ms r = .ok x ↔ assign (ms.lookup ·) fields r = .ok x := by
  -- Along the fields. The member of the first one can be set first, and no other has its name.
  induction fields generalizing ms r with
  | nil => rw [setMembers_no_fields, assign]
  | cons f fields ih =>
    obtain ⟨hname, hnodup⟩ := List.nodup_cons.1 hnodup
    have hcommutes : ∀ g ∈ fields, ∀ g' ∈ fields, g.name ≠ g'.name → g.Commutes g' :=
      fun g hg g' hg' => hfields g (List.mem_cons_of_mem _ hg) g' (List.mem_cons_of_mem _ hg')
    cases hlookup : ms.lookup f.name with
    | none =>
      have habsent : f.name ∉ ms.map Prod.fst := by
        intro hmem
        obtain ⟨m, hm, heq⟩ := List.mem_map.1 hmem
        simpa [heq] using List.lookup_eq_none_iff.1 hlookup m hm
      rw [setMembers_cons_absent habsent, assign_unsaid hlookup]
      exact ih hcommutes hnodup hms
    | some v =>
      rw [assign_said hlookup]
      obtain ⟨before, after, rfl, hbefore⟩ := List.lookup_eq_some_iff.1 hlookup
      have hperm : (before ++ (f.name, v) :: after).Perm ((f.name, v) :: (before ++ after)) :=
        List.perm_middle
      have hms' := (hperm.map Prod.fst).nodup_iff.1 hms
      have hiff : setMembers (f :: fields) (before ++ (f.name, v) :: after) r = .ok x ↔
          setMembers (f :: fields) ((f.name, v) :: (before ++ after)) r = .ok x :=
        ⟨setMembers_perm hfields hperm hms, setMembers_perm hfields hperm.symm hms'⟩
      obtain ⟨habsent, hothers⟩ := List.nodup_cons.1 hms'
      have hfind : (f :: fields).find? (fun g => g.name = f.name) = some f :=
        List.find?_cons_of_pos (by simp)
      rw [hiff, setMembers_cons_eq_ok, hfind]
      refine exists_congr fun r₁ => and_congr_right fun _ => ?_
      rw [setMembers_cons_absent habsent, ih hcommutes hnodup hothers]
      refine iff_of_eq (congrArg (· = .ok x) (assign_congr fun g hg => ?_))
      have hne : g.name ≠ f.name := fun heq => hname (heq ▸ List.mem_map_of_mem hg)
      rw [List.lookup_append, List.lookup_append, lookup_cons_ite, if_neg hne]

/-- Setting the items of a list is setting the fields in turn, if it does not end too early: the
items are in the order of the fields already, and only fields that may end a list may be missing. -/
theorem setItems_eq_ok_iff {tooShort : Nat → Mismatch} {i : Nat} {vs : List Value}
    (hnodup : (fields.map Field.name).Nodup) :
    setItems tooShort i fields vs r = .ok x ↔
      (∀ f ∈ fields.drop vs.length, f.mayEnd = true) ∧
        assign (((fields.map Field.name).zip vs).lookup ·) fields r = .ok x := by
  -- Along the fields. When the list ends, every field that is left must be one that may end it.
  induction fields generalizing i vs r with
  | nil =>
    rw [List.drop_nil]
    exact ⟨fun h => ⟨fun _ hf => absurd hf List.not_mem_nil, h⟩, fun h => h.2⟩
  | cons f fields ih =>
    obtain ⟨hname, hnodup⟩ := List.nodup_cons.1 hnodup
    cases vs with
    | nil =>
      have hnothing : ∀ names : List String, names.zip ([] : List Value) = [] := fun names =>
        List.zip_nil_right
      have hrest : setItems tooShort (i + 1) fields [] r = .ok x ↔ _ := ih hnodup
      rw [hnothing] at hrest ⊢
      rw [assign_unsaid rfl, setItems]
      show _ ↔ (∀ g ∈ f :: fields, g.mayEnd = true) ∧ _
      rw [List.forall_mem_cons, and_assoc]
      by_cases hend : f.mayEnd = true
      · rw [if_pos hend, hrest]
        exact (and_iff_right hend).symm
      · rw [if_neg hend]
        exact ⟨nofun, fun h => absurd h.1 hend⟩
    | cons v vs =>
      have hsaid : (((f :: fields).map Field.name).zip (v :: vs)).lookup f.name = some v :=
        List.lookup_cons_self
      have hothers : ∀ r, assign (((fields.map Field.name).zip vs).lookup ·) fields r =
          assign ((((f :: fields).map Field.name).zip (v :: vs)).lookup ·) fields r := by
        refine fun r => assign_congr fun g hg => ?_
        have hne : g.name ≠ f.name := fun heq => hname (heq ▸ List.mem_map_of_mem hg)
        rw [List.map_cons, List.zip_cons_cons, lookup_cons_ite, if_neg hne]
      rw [assign_said hsaid, setItems, except_bind_eq_ok]
      simp only [below, except_mapError_eq_ok, ih hnodup, hothers]
      constructor
      · rintro ⟨r₁, hset, hend, hrest⟩
        exact ⟨hend, r₁, hset, hrest⟩
      · rintro ⟨hend, r₁, hset, hrest⟩
        exact ⟨r₁, hset, hend, hrest⟩

/-- The names of the fields. -/
def names (d : Record ρ) : List String := d.fields.map Field.name

/-- What a value of a record gives for a field: a table by name, a list by position. -/
def given? (d : Record ρ) (v : Value) (name : String) : Option Value :=
  match v with
  | .table ms => ms.lookup name
  | .list vs => (d.names.zip vs).lookup name
  | _ => none

/-- A value may stand for a record: it is a table, or a list that does not end too early. -/
def Fits (d : Record ρ) : Value → Prop
  | .table _ => True
  | .list vs => ∀ f ∈ d.fields.drop vs.length, f.mayEnd = true
  | _ => False

/-- The fields of a record have different names and can be set in any order, and none that a table
must have can be left out of a list. -/
structure IsLawful (d : Record ρ) : Prop where
  orderless : d.IsOrderless
  nodup : d.names.Nodup
  required : ∀ name ∈ d.required, ∃ f ∈ d.fields, f.name = name ∧ f.mayEnd = false

/-- A list that fits has the fields without which it may not end, so what a table must say is always
said by a list. -/
theorem exists_given?_of_fits {vs : List Value} {fields : List (Field ρ)}
    (hfits : ∀ f ∈ fields.drop vs.length, f.mayEnd = true) (hf : f ∈ fields)
    (hend : f.mayEnd = false) :
    ∃ v, ((fields.map Field.name).zip vs).lookup f.name = some v := by
  -- Along the fields and the list. A list that ends before the field does not fit.
  induction fields generalizing vs with
  | nil => cases hf
  | cons g fields ih =>
    cases vs with
    | nil =>
      rw [hfits f hf] at hend
      cases hend
    | cons v vs =>
      rw [List.map_cons, List.zip_cons_cons, lookup_cons_ite]
      by_cases hname : f.name = g.name
      · exact ⟨v, if_pos hname⟩
      · rw [if_neg hname]
        refine ih hfits ?_
        rcases List.mem_cons.1 hf with rfl | hf
        · exact absurd rfl hname
        · exact hf

/-- What is said of the fields of a record makes it what it is. -/
structure Reads (d : Record ρ) (said : String → Option Value) (r : ρ) : Prop where
  required : ∀ name ∈ d.required, ∃ w, said name = some w
  fields : assign said d.fields d.blank = .ok r

/-- What a record is read as depends on what is said of its own names only. Two sources that agree
on those can stand for one another. -/
theorem Reads.congr {d : Record ρ} (hd : d.IsLawful) (h : d.Reads said r)
    (hsame : ∀ name ∈ d.names, said name = said' name) : d.Reads said' r := by
  refine ⟨fun name hname => ?_, ?_⟩
  · obtain ⟨f, hf, rfl, -⟩ := hd.required name hname
    rw [← hsame f.name (List.mem_map_of_mem hf)]
    exact h.required f.name hname
  · rw [← h.fields]
    exact assign_congr fun f hf => (hsame f.name (List.mem_map_of_mem hf)).symm

/-- Decoding a record is setting its fields in turn, for a table and for a list alike, if the value
fits and says what it must. The lemmas on each record start from this one. -/
theorem decoder_eq_ok_iff {d : Record ρ} (hd : d.IsLawful) (hv : v.Ordered) :
    d.decoder v = .ok r ↔ d.Fits v ∧ d.Reads (d.given? v) r := by
  -- A table says its members by name and must have those that are required. A list cannot leave
  -- these out.
  cases v with
  | table ms =>
    have hset := setMembers_eq_ok_iff (r := d.blank) (x := r) hd.orderless hd.nodup
      (nodup_of_sorted hv.sorted)
    show (setMembers d.fields ms d.blank >>= fun r => _) = .ok r ↔ _
    rw [except_bind_eq_ok]
    cases hfind : d.required.find? fun name => (ms.lookup name).isNone with
    | some name =>
      constructor
      · rintro ⟨r, -, hr⟩
        cases hr
      · rintro ⟨-, h⟩
        obtain ⟨w, hw⟩ := h.required name (List.mem_of_find?_eq_some hfind)
        have hnone := List.find?_some hfind
        rw [show ms.lookup name = some w from hw] at hnone
        cases hnone
    | none =>
      have hrequired : ∀ name ∈ d.required, ∃ w, d.given? (.table ms) name = some w := by
        intro name hname
        have hsome := List.find?_eq_none.1 hfind name hname
        cases hlookup : ms.lookup name with
        | none => exact absurd (congrArg Option.isNone hlookup) hsome
        | some w => exact ⟨w, hlookup⟩
      simp only [except_pure, Except.ok.injEq, exists_eq_right]
      exact hset.trans ⟨fun h => ⟨trivial, hrequired, h⟩, fun h => h.2.fields⟩
  | list vs =>
    refine (setItems_eq_ok_iff hd.nodup).trans (and_congr_right fun hfits => ?_)
    refine ⟨fun h => ⟨fun name hname => ?_, h⟩, fun h => h.fields⟩
    obtain ⟨f, hf, rfl, hend⟩ := hd.required name hname
    exact exists_given?_of_fits hfits hf hend
  | _ => exact ⟨nofun, fun h => absurd h.1 id⟩

/-- What there is at a place, if anything, makes a record what it is. -/
structure ReadsFrom (d : Record ρ) (o : Option Value) (r : ρ) : Prop where
  fits : ∀ v, o = some v → d.Fits v
  reads : d.Reads (fun name => o.bind fun v => d.given? v name) r

section

variable {d : Record ρ} {o : Option Value}

/-- When nothing is said of any field, the record stays what it was. -/
theorem assign_nothing (h : ∀ name, said name = none) : assign said fields r = .ok r := by
  induction fields with
  | nil => rfl
  | cons f fields ih => rw [assign_unsaid (h f.name), ih]

/-- A record that may be left out: when there is no value, every field keeps what is built in, which
is the same as to read a table that says nothing. -/
theorem gives_iff (hd : d.IsLawful) (hrequired : d.required = [])
    (ho : ∀ v, o = some v → v.Ordered) : d.decoder.Gives d.blank o r ↔ d.ReadsFrom o r := by
  cases o with
  | none =>
    have hnothing : assign (fun name => (none : Option Value).bind fun v => d.given? v name)
        d.fields d.blank = .ok d.blank := assign_nothing fun _ => rfl
    constructor
    · rintro rfl
      exact ⟨nofun, by rw [hrequired]; exact fun _ h => (nomatch h), hnothing⟩
    · intro h
      exact (Except.ok.inj (hnothing.symm.trans h.reads.fields)).symm
  | some v =>
    refine (decoder_eq_ok_iff hd (ho v rfl)).trans ⟨?_, fun h => ⟨h.fits v rfl, h.reads⟩⟩
    rintro ⟨hfits, hreads⟩
    exact ⟨fun _ h => Option.some.inj h ▸ hfits, hreads⟩

/-- A record that may not be left out: there must be a value, because there is a field of which
something has to be said. -/
theorem exists_decoder_iff (hd : d.IsLawful) (hrequired : d.required ≠ [])
    (ho : ∀ v, o = some v → v.Ordered) :
    (∃ v, o = some v ∧ d.decoder v = .ok r) ↔ d.ReadsFrom o r := by
  constructor
  · rintro ⟨v, rfl, hv⟩
    obtain ⟨hfits, hreads⟩ := (decoder_eq_ok_iff hd (ho v rfl)).1 hv
    exact ⟨fun _ h => Option.some.inj h ▸ hfits, hreads⟩
  · intro h
    cases o with
    | none =>
      obtain ⟨name, hname⟩ := List.exists_mem_of_ne_nil _ hrequired
      obtain ⟨w, hw⟩ := h.reads.required name hname
      cases hw
    | some v => exact ⟨v, rfl, (decoder_eq_ok_iff hd (ho v rfl)).2 ⟨h.fits v rfl, h.reads⟩⟩

/-- None of the fields can be a table. -/
def IsFlat (d : Record ρ) : Prop := ∀ f ∈ d.fields, ∀ ms r x, f.set (.table ms) r ≠ .ok x

/-- Whatever is said of a field is what the field was set to, at some point of a run that
succeeds. -/
theorem exists_set_of_assign {v : Value} (h : assign said fields r = .ok x) (hf : f ∈ fields)
    (hsaid : said f.name = some v) : ∃ r x, f.set v r = .ok x := by
  -- The field is set in its turn, or the run goes on to where it is.
  induction fields generalizing r with
  | nil => cases hf
  | cons g fields ih =>
    cases hg : said g.name with
    | none =>
      rw [assign_unsaid hg] at h
      rcases List.mem_cons.1 hf with rfl | hf
      · rw [hsaid] at hg
        cases hg
      · exact ih h hf
    | some w =>
      obtain ⟨r₁, hset, hrest⟩ := (assign_said hg).1 h
      rcases List.mem_cons.1 hf with rfl | hf
      · rw [hsaid] at hg
        cases hg
        exact ⟨r, r₁, hset⟩
      · exact ih hrest hf

/-- A table is not said of any field of a flat record: setting the field to it would have failed. -/
theorem Reads.not_table (h : d.Reads said r) (hd : d.IsFlat) (hname : name ∈ d.names) (ms : Table) :
    said name ≠ some (.table ms) := by
  intro hsaid
  obtain ⟨f, hf, rfl⟩ := List.mem_map.1 hname
  obtain ⟨r₁, x, hset⟩ := exists_set_of_assign h.fields hf hsaid
  exact hd f hf ms r₁ x hset

end

end Record

end DeviceRegistry.Settings
