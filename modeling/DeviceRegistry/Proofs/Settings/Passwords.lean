import DeviceRegistry.Proofs.Settings.Layers
import DeviceRegistry.Proofs.Steps
import DeviceRegistry.Settings.Connection

/-!
# `DeviceRegistry.Proofs.Settings.Passwords`: settings without their passwords

Settings are shown without the passwords of their profiles, and no password decides what else they
say: neither one in a file, which may be any string, nor the one in the variable for passwords,
which sets a member at the top that means nothing. Main statements:

* `document_withoutPasswords`, `toToml_withoutPasswords`: what is shown has no passwords.
* `decoder_withoutPasswords`: a string for a password is read whatever it is.
* `load_withoutPasswords`: what is loaded depends on passwords for passwords only.
-/

set_option autoImplicit false

namespace DeviceRegistry

namespace Settings

/-! ### Settings -/

/-- A profile without its password. -/
def Profile.withoutPassword (p : Profile) : Profile := { p with password := none }

/-- Profiles without their passwords. -/
def withoutEach (profiles : List (String × Profile)) : List (String × Profile) :=
  profiles.map fun m => (m.1, m.2.withoutPassword)

/-- Settings without the passwords of their profiles. -/
def withoutPasswords (s : Settings) : Settings :=
  { s with profiles := withoutEach s.profiles }

/-- A document of settings has no passwords: it is the same for settings without them, so it cannot
tell which they were. -/
theorem document_withoutPasswords (s : Settings) : s.withoutPasswords.document = s.document := by
  have hprofiles : (withoutEach s.profiles).map (fun m => (m.1, m.2.document)) =
      s.profiles.map fun m => (m.1, m.2.document) := by
    rw [withoutEach, List.map_map]
    rfl
  show Json.Value.object [_, _, _, ("profiles", .object (List.map _ (withoutEach s.profiles)))] = _
  rw [hprofiles]
  rfl

/-- A file of settings has no passwords either, in the same sense: the table of a profile is written
without looking at its password. -/
theorem toToml_withoutPasswords (s : Settings) : s.withoutPasswords.toToml = s.toToml := by
  have hprofile : ∀ p : Profile, p.withoutPassword.table = p.table := fun _ => rfl
  unfold toToml table withoutPasswords withoutEach
  dsimp only
  rw [List.mapM_map]
  rfl

/-! ### Trees -/

namespace Value

/-- A tree with the member of a name changed. -/
def atMember (name : String) (change : Value → Value) : Value → Value :=
  mapMembers fun k v => if k = name then change v else v

/-- Any string becomes an empty one. -/
def withoutText : Value → Value
  | .string _ => .string ""
  | v => v

/-- The tree of settings without the strings that are passwords of profiles. -/
def withoutPasswords : Value → Value :=
  atMember "profiles" (mapMembers fun _ profile => profile.atMember "password" withoutText)

/-- Changing nothing passes through a join. It is the case of the sections in which no password
stands. -/
theorem passes_id : Passes fun v => v := fun _ _ => rfl

/-- A change that passes through a join does so when it is made at one name only, all other members
being left as they are. -/
theorem Passes.atMember {change : Value → Value} (name : String) (h : Passes change) :
    Passes (atMember name change) := by
  refine Passes.mapMembers fun k => ?_
  by_cases hk : k = name
  · simpa only [if_pos hk] using h
  · simpa only [if_neg hk] using passes_id

/-- Passwords can be left out before trees are laid over one another, or after: the change is one of
strings, made at one member of the members of another. -/
theorem withoutPasswords_passes : Passes withoutPasswords := by
  have htext : Passes withoutText := by
    refine Passes.of_scalar (fun _ => rfl) ?_
    intro v hv ms
    cases v with
    | table ms' => exact absurd rfl (hv ms')
    | _ => exact Value.noConfusion
  exact Passes.atMember _ (Passes.mapMembers fun _ => Passes.atMember _ htext)

end Value

/-! ### Decoding -/

section
variable {α β ρ : Type}

/-- A decoder makes the same of a tree whether it is changed or not, but for what is forgotten. -/
def Decoder.IsBlind (d : Decoder α) (change : Value → Value) (forget : α → β) : Prop :=
  ∀ v, (d (change v)).map forget = (d v).map forget

/-- A field does the same to a record whether its value is changed or not, but for what is
forgotten. -/
def Field.IsBlind (f : Field ρ) (change : Value → Value) (forget : ρ → ρ) : Prop :=
  ∀ v r r', forget r = forget r' → (f.set (change v) r).map forget = (f.set v r').map forget

variable {name : String} {mayEnd : Bool} {d : Decoder α} {set : α → ρ → ρ} {forget : ρ → ρ}
  {change : Value → Value}

/-- Results that are the same but for what is forgotten remain so, whatever is made of them, as long
as that does not depend on what is forgotten. -/
theorem map_congr {γ δ ε : Type} {x y : Except ε α} {g : α → β} {f f' : α → γ} {h : γ → δ}
    (hxy : x.map g = y.map g) (hf : ∀ a a', g a = g a' → h (f a) = h (f' a')) :
    (x.map f).map h = (y.map f').map h := by
  cases x with
  | error e =>
    cases y with
    | error e' => exact congrArg Except.error (Except.error.inj hxy)
    | ok a => cases hxy
  | ok a =>
    cases y with
    | error e => cases hxy
    | ok a' => exact congrArg Except.ok (hf a a' (Except.ok.inj hxy))

/-- A field is blind to a change when its decoder is, and when what is set depends on what is
forgotten only where that is forgotten again. -/
theorem Field.of_isBlind {g : α → β} (hd : d.IsBlind change g)
    (h : ∀ a a' r r', g a = g a' → forget r = forget r' → forget (set a r) = forget (set a' r')) :
    (Field.of name mayEnd d set).IsBlind change forget := fun v r r' hr =>
  map_congr (hd v) fun a a' ha => h a a' r r' ha hr

/-- A field of which nothing is forgotten does the same to what is left. All fields but the password
are of this kind. -/
theorem Field.of_isBlind_id (h : ∀ a r, forget (set a r) = set a (forget r)) :
    (Field.of name mayEnd d set).IsBlind (fun v => v) forget := by
  refine Field.of_isBlind (g := fun a => a) (fun _ => rfl) ?_
  rintro a _ r r' rfl hr
  rw [h, h, hr]

/-- The same for what may fail again: errors are compared as they are, since they must not tell
passwords apart either. -/
theorem bind_congr {γ δ ε : Type} {x y : Except ε α} {g : α → β} {f f' : α → Except ε γ}
    {h : γ → δ} (hxy : x.map g = y.map g)
    (hf : ∀ a a', g a = g a' → (f a).map h = (f' a').map h) :
    (x >>= f).map h = (y >>= f').map h := by
  cases x with
  | error e =>
    cases y with
    | error e' => exact congrArg Except.error (Except.error.inj hxy)
    | ok a => cases hxy
  | ok a =>
    cases y with
    | error e => cases hxy
    | ok a' => exact hf a a' (Except.ok.inj hxy)

/-- An error may be turned into another on both sides. It is for the place where an error gets the
name of the section that it is in. -/
theorem mapError_congr {ε ε' : Type} {x y : Except ε α} {g : α → β} (f : ε → ε')
    (hxy : x.map g = y.map g) : (x.mapError f).map g = (y.mapError f).map g := by
  cases x with
  | error e =>
    cases y with
    | error e' => rw [Except.error.inj hxy]
    | ok a => cases hxy
  | ok a =>
    cases y with
    | error e => cases hxy
    | ok a' => exact congrArg Except.ok (Except.ok.inj hxy)

/-- Members do the same to a record when its fields do, including those that are not known, which do
nothing. The induction is on the members, as they are set one after the other. -/
theorem setMembers_isBlind {fields : List (Field ρ)} {change : String → Value → Value}
    (h : ∀ f ∈ fields, f.IsBlind (change f.name) forget) (ms : Table) {r r' : ρ}
    (hr : forget r = forget r') :
    (Record.setMembers fields (Table.mapValues change ms) r).map forget =
      (Record.setMembers fields ms r').map forget := by
  induction ms generalizing r r' with
  | nil => exact congrArg Except.ok hr
  | cons m ms ih =>
    obtain ⟨k, v⟩ := m
    show (Record.setMembers fields ((k, change k v) :: Table.mapValues change ms) r).map _ = _
    unfold Record.setMembers
    cases hfind : fields.find? fun f => f.name = k with
    | none => exact ih hr
    | some f =>
      have hmem : f ∈ fields := List.mem_of_find?_eq_some hfind
      obtain rfl : f.name = k := by simpa using List.find?_some hfind
      exact bind_congr (mapError_congr _ (h f hmem v r r' hr)) fun _ _ => ih

/-- A record is read alike when its fields are. For a list nothing is changed, so there is nothing
to show but for a table. -/
theorem Record.decoder_isBlind {d : Record ρ} {change : String → Value → Value}
    (h : ∀ f ∈ d.fields, f.IsBlind (change f.name) forget) :
    Decoder.IsBlind d.decoder (Value.mapMembers change) forget := by
  intro v
  cases v with
  | table ms =>
    have hrequired : (fun k => ((Table.mapValues change ms).lookup k).isNone) =
        fun k => (ms.lookup k).isNone := by
      funext k
      rw [Table.lookup_mapValues, Option.isNone_map]
    refine bind_congr (setMembers_isBlind h ms rfl) ?_
    intro r r' hr
    rw [hrequired]
    cases d.required.find? fun k => (ms.lookup k).isNone with
    | none => exact congrArg Except.ok hr
    | some k => rfl
  | _ => rfl

/-- Members are read alike when each of them is. This carries the profile to the table of profiles,
whose names play no part in what a profile is read as. -/
theorem Decoder.members_isBlind {g : α → β} (h : d.IsBlind change g) :
    (Decoder.members d).IsBlind (Value.mapMembers fun _ => change)
      (List.map fun m => (m.1, g m.2)) := by
  intro v
  cases v with
  | table ms =>
    let read (m : String × Value) : Except Fault (String × α) := do
      return (m.1, ← below m.1 (d m.2))
    show ((Table.mapValues _ ms).mapM read).map _ = (ms.mapM read).map _
    induction ms with
    | nil => rfl
    | cons m ms ih =>
      have hfirst : (read (m.1, change m.2)).map (fun m => (m.1, g m.2)) =
          (read m).map fun m => (m.1, g m.2) :=
        bind_congr (mapError_congr _ (h m.2)) fun a a' ha =>
          congrArg (fun b => Except.ok (m.1, b)) ha
      show (((m.1, change m.2) :: Table.mapValues (fun _ => change) ms).mapM read).map _ = _
      rw [List.mapM_cons, List.mapM_cons]
      -- One member after the other, with errors compared as they are.
      refine bind_congr hfirst fun a a' ha => bind_congr ih fun as as' has => ?_
      show Except.ok ((a.1, g a.2) :: List.map _ as) = .ok ((a'.1, g a'.2) :: List.map _ as')
      rw [ha, has]
  | _ => rfl

end

/-- A profile is read alike but for its password whatever string that is: a string is replaced by
another one, so it is read where it was read before. -/
theorem Profile.decoder_isBlind : Decoder.IsBlind Profile.record.decoder
    (Value.atMember "password" Value.withoutText) Profile.withoutPassword := by
  have hpassword : Decoder.IsBlind (Decoder.optional .string) Value.withoutText fun _ => () := by
    intro v
    cases v <;> rfl
  -- The password is forgotten, and every other field is read from a value that is not changed.
  refine Record.decoder_isBlind ?_
  intro f hf
  simp only [Profile.record, List.mem_cons, List.not_mem_nil, or_false] at hf
  rcases hf with rfl | rfl | rfl | rfl | rfl | rfl | rfl | rfl | rfl
  case inr.inr.inr.inr.inl =>
    exact Field.of_isBlind hpassword fun _ _ _ _ _ hr => hr
  all_goals exact Field.of_isBlind_id fun _ _ => rfl

/-- Settings are read alike but for their passwords whatever strings these are. Only the profiles
have any, and all other fields are read from values that are not changed. -/
theorem decoder_isBlind :
    Decoder.IsBlind record.decoder Value.withoutPasswords withoutPasswords := by
  have hprofiles := Decoder.members_isBlind Profile.decoder_isBlind
  refine Record.decoder_isBlind ?_
  intro f hf
  simp only [record, List.mem_cons, List.not_mem_nil, or_false] at hf
  rcases hf with rfl | rfl | rfl | rfl
  case inr.inr.inr =>
    refine Field.of_isBlind hprofiles ?_
    intro profiles profiles' s s' h hs
    show { s.withoutPasswords with profiles := withoutEach profiles } =
      { s'.withoutPasswords with profiles := withoutEach profiles' }
    rw [hs]
    exact congrArg (fun l => { s'.withoutPasswords with profiles := l }) h
  all_goals exact Field.of_isBlind_id fun _ _ => rfl

/-! ### Loading -/

/-- A member that is no field may be set or not, wherever in the table its name belongs. So a
variable that sets something unknown in a record does not change what the record is read as. -/
theorem setMembers_alter {ρ : Type} {fields : List (Field ρ)} {name : String}
    (h : (fields.find? fun f => f.name = name) = none) (g : Option Value → Value) (ms : Table)
    (r : ρ) :
    Record.setMembers fields (Table.alter name g ms) r = Record.setMembers fields ms r := by
  have hskip : ∀ (v : Value) (ms : Table) (r : ρ),
      Record.setMembers fields ((name, v) :: ms) r = Record.setMembers fields ms r := by
    intro v ms r
    rw [Record.setMembers, h]
  induction ms generalizing r with
  | nil => exact hskip _ _ _
  | cons m ms ih =>
    obtain ⟨k, v⟩ := m
    rcases Std.lt_trichotomy name k with hlt | rfl | hlt
    · rw [Table.alter_cons_lt hlt, hskip]
    · rw [Table.alter_cons_self, hskip, hskip]
    · rw [Table.alter_cons_gt hlt]
      unfold Record.setMembers
      simp only [ih]

/-- What trees say that agree but for a member is the same when the member means nothing. The
variable for passwords sets a member at the top, which is of this kind. -/
theorem decoder_eq_of_agreesBut {v w : Value} (h : AgreesBut "password" v w) :
    record.decoder v = record.decoder w := by
  obtain ⟨ms, ns, rfl, rfl, h⟩ := h
  have hset : ∀ ms : Table, Record.setMembers record.fields ms record.blank =
      Record.setMembers record.fields (Table.alter "password" (fun _ => unsaid) ms)
        record.blank := by
    intro ms
    exact (setMembers_alter rfl _ ms _).symm
  show (Record.setMembers record.fields ms record.blank >>= fun r => .ok r) =
    (Record.setMembers record.fields ns record.blank >>= fun r => .ok r)
  rw [hset ms, hset ns, h]

/-- What is loaded depends on passwords for passwords only: on the strings in the file, and on the
variable. -/
theorem load_withoutPasswords {file file' : Option String} {env env' : Environment}
    (hfile : (ofFile file).map Value.withoutPasswords = (ofFile file').map Value.withoutPasswords)
    (henv : (env.filter fun x => x.1 ≠ passwordVariable) =
      env'.filter fun x => x.1 ≠ passwordVariable) :
    (load file env).map withoutPasswords = (load file' env').map withoutPasswords := by
  refine bind_congr hfile fun lower lower' hlower => mapError_congr _ ?_
  -- First the variables are changed, then the file, which the decoder is blind to.
  have hvariable : settingPath? passwordVariable = some ["password"] := by decide +kernel
  have hupper := (ofEnvironment_agreesBut hvariable henv).laidOver_same lower
  rw [decoder_eq_of_agreesBut hupper, ← decoder_isBlind,
    ← decoder_isBlind (Value.laidOver _ lower'), Value.withoutPasswords_passes,
    Value.withoutPasswords_passes, hlower]

end Settings

end DeviceRegistry
