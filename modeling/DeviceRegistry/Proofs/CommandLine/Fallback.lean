import DeviceRegistry.Proofs.CommandLine.Target
import DeviceRegistry.Proofs.CommandLine.Variables
import DeviceRegistry.Proofs.Settings.Ordered
import DeviceRegistry.Proofs.Settings.Passwords

/-!
# `DeviceRegistry.Proofs.CommandLine.Fallback`: settings that cannot be loaded count as none

A run acts on the settings that are loaded for its place, and on nothing else of the file. When they
cannot be loaded, because the file is malformed or a value has the wrong form, the run goes on as if
nothing was set: as in a place without a file, and without variables but those that give arguments.
Main statements:

* `load_bare`: where nothing is set, the settings are the blank ones.
* `actsLike_bare`: a place whose settings cannot be loaded is like one where nothing is set.
* `run_ne_loading`: no run ends because settings cannot be loaded.
* `run_acts_on_loaded`: which settings a run acts on, in every place.
-/

set_option autoImplicit false

namespace DeviceRegistry

namespace Settings

variable {ms us ls : Table} {name : String}

/-! ### Variables that give arguments -/

/-- A name that no field of the settings has. -/
def IsNoField (name : String) : Prop := (record.fields.find? fun f => f.name = name) = none

instance (name : String) : Decidable (IsNoField name) :=
  decidable_of_iff ((record.fields.find? fun f => f.name = name).isNone) Option.isNone_iff_eq_none

/-- No member of a table is a field of the settings. -/
def HasNoField (ms : Table) : Prop := ∀ m ∈ ms, IsNoField m.1

/-- Members that are no fields set nothing, so a record that is given only such members is the one
that was started with. -/
theorem setMembers_of_hasNoField (h : HasNoField ms) (s : Settings) :
    Record.setMembers record.fields ms s = .ok s := by
  induction ms generalizing s with
  | nil => rfl
  | cons m ms ih =>
    obtain ⟨hm, hms⟩ := List.forall_mem_cons.1 h
    rw [Record.setMembers, show (record.fields.find? fun f => f.name = m.1) = none from hm]
    exact ih hms s

/-- Writing a member that is no field, or changing one, keeps a table without fields. -/
theorem HasNoField.alter (h : HasNoField ms) (hname : IsNoField name)
    (g : Option Value → Value) : HasNoField (Table.alter name g ms) := by
  intro m hm
  rcases mem_alter hm with hm | ⟨heq, -⟩
  · exact h m hm
  · rwa [heq]

/-- A table without fields laid over another one has none either; it is how the variables are laid
over a file. -/
theorem HasNoField.overMembers (hu : HasNoField us) (hl : HasNoField ls) :
    HasNoField (Value.overMembers us ls) := by
  induction us generalizing ls with
  | nil => exact hl
  | cons m us ih =>
    obtain ⟨hm, hus⟩ := List.forall_mem_cons.1 hu
    exact ih hus (hl.alter hm _)

/-- The name of each variable that gives an argument is that of no field: split as the names of
settings are, it is one word that only the command line knows. -/
theorem settingPath?_argumentVariable : ∀ var ∈ CommandLine.argumentVariables,
    ∃ name ∈ ["profile", "registry", "output", "insecure", "timeout", "tenant"],
      settingPath? var = some [name] := by decide +kernel

/-- None of these words is a field of the settings, which is looked up once for all. -/
theorem isNoField_of_argument :
    ∀ name ∈ ["profile", "registry", "output", "insecure", "timeout", "tenant"],
      IsNoField name := by decide

/-- So laying the value of such a variable on a table without fields leaves it without fields. -/
theorem hasNoField_layOn {x : String × String} (hx : x.1 ∈ CommandLine.argumentVariables)
    (h : HasNoField ms) : ∃ ns, layOn (.table ms) x = .table ns ∧ HasNoField ns := by
  obtain ⟨name, hname, hpath⟩ := settingPath?_argumentVariable x.1 hx
  unfold layOn
  rw [hpath]
  exact ⟨_, rfl, h.alter (isNoField_of_argument name hname) _⟩

/-- Variables that give arguments set nothing. They are laid on in order, and the induction keeps
that no field is among the members. -/
theorem hasNoField_ofEnvironment {env : Environment}
    (henv : ∀ x ∈ env, x.1 ∈ CommandLine.argumentVariables) :
    ∃ ms, ofEnvironment env = .table ms ∧ HasNoField ms := by
  rw [ofEnvironment_eq]
  have hsorted : ∀ x ∈ env.mergeSort fun a b => a.1 ≤ b.1, x.1 ∈ CommandLine.argumentVariables :=
    fun x hx => henv x (List.mem_mergeSort.1 hx)
  -- The invariant of the fold: what has been laid so far has none of the fields.
  have hall : ∀ (vars : Environment) (ms : Table), HasNoField ms →
      (∀ x ∈ vars, x.1 ∈ CommandLine.argumentVariables) →
      ∃ ns, vars.foldl layOn (.table ms) = .table ns ∧ HasNoField ns := by
    intro vars
    induction vars with
    | nil => exact fun ms hms _ => ⟨ms, rfl, hms⟩
    | cons x vars ih =>
      intro ms hms hvars
      obtain ⟨hx, hvars⟩ := List.forall_mem_cons.1 hvars
      obtain ⟨ns, hns, hnone⟩ := hasNoField_layOn hx hms
      rw [List.foldl_cons, hns]
      exact ih ns hnone hvars
  exact hall _ [] (fun m hm => nomatch hm) hsorted

/-- Without a file, and with variables that give arguments alone, the settings are blank: there is
no field anywhere that could set one. -/
theorem load_of_argumentVariables {env : Environment}
    (henv : ∀ x ∈ env, x.1 ∈ CommandLine.argumentVariables) : load none env = .ok {} := by
  obtain ⟨us, hus, hnone⟩ := hasNoField_ofEnvironment henv
  have hnil : HasNoField [] := fun m hm => nomatch hm
  have hset := setMembers_of_hasNoField (hnone.overMembers hnil) record.blank
  show (record.decoder ((ofEnvironment env).laidOver (.table []))).mapError LoadError.fault = _
  rw [hus]
  show (Record.setMembers record.fields (Value.overMembers us []) record.blank >>= fun s =>
    .ok s).mapError LoadError.fault = _
  rw [hset]
  rfl

end Settings

namespace CommandLine

open DeviceRegistry.Settings (Environment Profile)

variable {w w' : Surroundings} {o : Options} {s : Settings} {args : List String}
  {e : Settings.LoadError} {f : Failure}

/-! ### Runs in alike places -/

/-- What is read of a file depends on the files of a place only. -/
theorem readPayload_congr (hfiles : w.files = w'.files) (limit : Nat) (path : String) :
    readPayload w limit path = readPayload w' limit path := by
  unfold readPayload
  rw [hfiles]

/-- So do the credentials that are loaded from a file, as the limit on its length comes with the
settings. -/
theorem loadCredentials_congr (hfiles : w.files = w'.files) (s : Settings) (path : String) :
    loadCredentials w s path = loadCredentials w' s path := by
  unfold loadCredentials
  rw [readPayload_congr hfiles]

/-- And so does a device: places with the same files cannot be told apart by loading one, whatever
their settings and variables are. -/
theorem loadDevice_congr (hfiles : w.files = w'.files) (s : Settings) (path : String) :
    loadDevice w s path = loadDevice w' s path := by
  unfold loadDevice
  rw [readPayload_congr hfiles]

/-- A connection depends on the files, for certificates, and on the target, which has taken all that
matters from the options, the settings and the variables. -/
theorem connect_eq_of_target (hfiles : w.files = w'.files)
    (htarget : o.target s w.settingsPath w.env = o.target s w'.settingsPath w'.env)
    (deviceId : String) (tenant : Option String) :
    connect w s o deviceId tenant = connect w' s o deviceId tenant := by
  unfold connect
  rw [hfiles, htarget]

/-- Two places have the same files and the same settings, arguments are found alike in them, and
every command has the same target. -/
structure Surroundings.ActsLike (w w' : Surroundings) : Prop where
  settingsPath : w.settingsPath = w'.settingsPath
  files : w.files = w'.files
  settings : w.settings = w'.settings
  arguments : FoundAlike w.env w'.env
  target : ∀ o : Options, o.target w.settings w.settingsPath w.env =
    o.target w.settings w'.settingsPath w'.env

namespace Surroundings.ActsLike

/-- A command is the same in two such places: it looks at the settings, the files and its target,
and these agree. -/
theorem command_run_eq (h : w.ActsLike w') (o : Options) (c : Command) :
    c.run w o = c.run w' o := by
  unfold Command.run
  dsimp only
  rw [← h.settings, h.settingsPath]
  simp only [loadCredentials_congr h.files, loadDevice_congr h.files,
    connect_eq_of_target h.files (h.target o)]

/-- A run is the same in two such places, since its arguments are read alike and its command is the
same. -/
theorem run_eq (h : w.ActsLike w') (args : List String) (wire : Client.Wire) :
    run w args wire = run w' args wire := by
  unfold run
  rw [read_eq_of_foundAlike h.arguments]
  cases Invocation.read w'.env args with
  | error why => rfl
  | ok i =>
    dsimp only
    rw [h.command_run_eq]

end Surroundings.ActsLike

/-! ### Settings that cannot be loaded -/

/-- The same place with nothing set: there is no file of settings, and no variable but those that
give arguments. -/
def Surroundings.bare (w : Surroundings) : Surroundings :=
  { w with
    settingsText := none
    env := w.env.filter fun x => argumentVariables.contains x.1 }

/-- Where nothing is set, the settings are blank. The variables that are left there are those that
give arguments. -/
theorem load_bare (w : Surroundings) :
    Settings.load w.bare.settingsText w.bare.env = .ok {} := by
  refine Settings.load_of_argumentVariables fun x hx => ?_
  simpa using (List.mem_filter.1 hx).2

/-- Settings that can be loaded are the settings of the place. -/
theorem settings_of_loaded (h : Settings.load w.settingsText w.env = .ok s) : w.settings = s := by
  unfold Surroundings.settings
  rw [h]
  rfl

/-- Settings that cannot be loaded count as none, whatever the reason is. This is where the reason
gets lost. -/
theorem settings_of_unloaded (h : Settings.load w.settingsText w.env = .error e) :
    w.settings = {} := by
  unfold Surroundings.settings
  rw [h]
  rfl

/-- Without settings no profile names a user, so that no variable matters for a target: the only one
that could is the password of that user. -/
theorem target_blank (o : Options) (path : String) (env env' : Environment) :
    o.target {} path env = o.target {} path env' := by
  have hunknown :
      ({} : Settings).profiles.lookup (({} : Settings).profileName o.profile) = none := rfl
  cases hprofile : o.selectProfile {} path with
  | error f => rw [target_of_error hprofile, target_of_error hprofile]
  | ok p =>
    have hblank : p = {} := by
      rw [selectProfile_of_unknown hunknown] at hprofile
      split at hprofile
      · exact (Except.ok.inj hprofile).symm
      · split at hprofile <;> cases hprofile
    subst hblank
    rw [target_of_profile hprofile, target_of_profile hprofile]
    rfl

/-- A place whose settings cannot be loaded is like one where nothing is set. The variables that are
left out there are not those of arguments, and no password is asked for. -/
theorem actsLike_bare (h : Settings.load w.settingsText w.env = .error e) : w.ActsLike w.bare where
  settingsPath := rfl
  files := rfl
  settings := (settings_of_unloaded h).trans (settings_of_loaded (load_bare w)).symm
  arguments name hname :=
    (lookup_filter argumentVariables.contains (List.contains_iff_mem.2 hname) w.env).symm
  target o := by
    rw [settings_of_unloaded h]
    exact target_blank o _ _ _

/-- What the file of settings says matters only for the settings, so a file that is loaded to the
same settings makes no difference. -/
theorem actsLike_of_settings {text : Option String}
    (h : w.settings = ({ w with settingsText := text } : Surroundings).settings) :
    w.ActsLike { w with settingsText := text } where
  settingsPath := rfl
  files := rfl
  settings := h
  arguments _ _ := rfl
  target _ := rfl

/-! ### Failures -/

section
variable {α β ε : Type} {x : Except Failure α}

/-- A computation does not report settings that cannot be loaded. -/
def OmitsLoading (x : Except Failure α) : Prop := ∀ e, x ≠ .error (.settings (.loading e))

/-- A result is no failure at all, and so it is not the failure to load settings. It is where the
chains of steps below end. -/
theorem omitsLoading_ok (a : α) : OmitsLoading (.ok a) := nofun

/-- Two steps omit it when the first does and the second does for each result of the first. It
follows how the commands are put together. -/
theorem OmitsLoading.bind {g : α → Except Failure β} (hx : OmitsLoading x)
    (hg : ∀ a, OmitsLoading (g a)) : OmitsLoading (x >>= g) := by
  intro e h
  rcases except_bind_eq_error.1 h with hfirst | ⟨a, -, hsecond⟩
  · exact hx e hfirst
  · exact hg a e hsecond

/-- Changing the result does not add a failure. It is for the reports that are made of what a step
has found. -/
theorem OmitsLoading.map (hx : OmitsLoading x) (g : α → β) : OmitsLoading (x.map g) := by
  cases x with
  | error f => exact fun e h => hx e (congrArg Except.error (Except.error.inj h))
  | ok a => exact omitsLoading_ok _

/-- A failure that a conversion makes of another error is this one only if the conversion says so,
which none of those for registries, clients and files does. -/
theorem omitsLoading_mapError {g : ε → Failure} (hg : ∀ err e, g err ≠ .settings (.loading e))
    (y : Except ε α) : OmitsLoading (y.mapError g) := by
  cases y with
  | error err => exact fun e h => hg err e (Except.error.inj h)
  | ok a => exact omitsLoading_ok _

end

/-- No error of a request is reported as settings that cannot be loaded. -/
theorem ofRegistryError_ne_loading (err : RegistryError) (e : Settings.LoadError) :
    Failure.ofRegistryError err ≠ .settings (.loading e) := by
  unfold Failure.ofRegistryError
  split <;> nofun

/-- Nor is an error of a client; what was wrong with a payload is reported as an error of a
request. -/
theorem ofClientError_ne_loading (err : Client.Error) (e : Settings.LoadError) :
    Failure.ofClientError err ≠ .settings (.loading e) := by
  cases err with
  | payload err => exact ofRegistryError_ne_loading err e
  | transport fault => cases fault <;> nofun
  | invalidBaseUrl _ | timeout _ | tls _ | deserialization _ _ => nofun

/-- Nor is a response that is no success, which is reported by its status. -/
theorem failure_ne_loading (session : Session) (asserted : Option String)
    (r : Management.Response) (e : Settings.LoadError) :
    session.failure asserted r ≠ .settings (.loading e) := by
  unfold Session.failure
  split <;> nofun

/-- A file that cannot be read or is too long is reported as such. -/
theorem omitsLoading_readPayload (w : Surroundings) (limit : Nat) (path : String) :
    OmitsLoading (readPayload w limit path) := by
  unfold readPayload
  split
  · nofun
  · split <;> nofun

/-- Loading credentials fails for the file or for the credentials. Settings have been loaded by
then, and are only asked for the limit on the length. -/
theorem omitsLoading_loadCredentials (w : Surroundings) (s : Settings) (path : String) :
    OmitsLoading (loadCredentials w s path) := by
  refine (omitsLoading_readPayload w _ path).bind fun bytes =>
    (omitsLoading_mapError (fun err e => ?_) _).bind fun cs => omitsLoading_ok _
  nofun

/-- Loading a device fails for the file or for the device. -/
theorem omitsLoading_loadDevice (w : Surroundings) (s : Settings) (path : String) :
    OmitsLoading (loadDevice w s path) := by
  refine (omitsLoading_readPayload w _ path).bind fun bytes =>
    omitsLoading_mapError (fun err e => ?_) _
  nofun

/-- A target fails for its profile, its URL or its password. Selecting a profile looks at the
settings that are there, so it cannot fail for want of them. -/
theorem omitsLoading_target (o : Options) (s : Settings) (path : String) (env : Environment) :
    OmitsLoading (o.target s path env) := by
  cases hprofile : o.selectProfile s path with
  | error f =>
    rw [target_of_error hprofile]
    unfold Options.selectProfile at hprofile
    grind [OmitsLoading]
  | ok p =>
    rcases target_cases hprofile env with
      ⟨-, htarget⟩ | ⟨url, -, ⟨userName, -, -, htarget⟩ | ⟨-, t, htarget, -⟩⟩
    all_goals
      rw [htarget]
      nofun

/-- A connection fails for its target, for the tenant or for the client. -/
theorem omitsLoading_connect (w : Surroundings) (s : Settings) (o : Options) (deviceId : String)
    (tenant : Option String) : OmitsLoading (connect w s o deviceId tenant) := by
  refine (omitsLoading_target o s _ _).bind fun t => OmitsLoading.bind ?_ fun tenantId =>
    (omitsLoading_mapError ofClientError_ne_loading _).bind fun client => omitsLoading_ok _
  unfold Target.tenantId
  split <;> nofun

/-- What is made of an answer does not report settings that cannot be loaded: a success goes on, and
any other status is a failure of its own. -/
theorem omitsLoading_answer {x : Except Failure String} (hx : OmitsLoading x) (session : Session)
    (asserted : Option String) (r : Management.Response) :
    OmitsLoading (if r.status.isSuccess then x else .error (session.failure asserted r)) := by
  split
  · exact hx
  · exact fun e h => failure_ne_loading session asserted r e (Except.error.inj h)

/-- Showing the settings fails only when they cannot be written; how they were loaded is not asked
again. -/
theorem omitsLoading_settingsText (format : Format) (s : Settings) :
    OmitsLoading (settingsText format s) := by
  unfold settingsText
  refine OmitsLoading.map ?_ _
  split
  · refine omitsLoading_mapError (fun err e => ?_) _
    nofun
  · exact omitsLoading_ok _

/-- What was fetched is decoded once more, and an error of that is one of a request. -/
theorem omitsLoading_fetched (r : Management.Response) : OmitsLoading (fetched r) := by
  unfold fetched
  split
  · exact omitsLoading_mapError ofRegistryError_ne_loading _
  · exact omitsLoading_ok _

/-- No command ends because settings cannot be loaded. Each of the commands is a chain of steps that
omit this error, and the settings that it runs with are those of the surroundings, which have been
decided on before. -/
theorem omitsLoading_run (w : Surroundings) (o : Options) (c : Command) (wire : Client.Wire) :
    OmitsLoading (c.run w o wire).1 := by
  -- What a command starts with, a file or a connection, ends it when it fails, with an error that
  -- does not speak of loading either.
  cases c with
  | settingsPath => exact omitsLoading_ok _
  | showSettings => exact omitsLoading_settingsText _ _
  | validateDevice file => exact (omitsLoading_loadDevice w _ file).map _
  | validateCredentials file => exact (omitsLoading_loadCredentials w _ file).map _
  | getCredentials deviceId tenant =>
    have hconnect := omitsLoading_connect w w.settings o deviceId tenant
    cases hc : connect w w.settings o deviceId tenant with
    | error f =>
      rw [hc] at hconnect
      rw [Command.run, hc]
      exact fun e h => hconnect e (congrArg Except.error (Except.error.inj h))
    | ok connected =>
      rw [run_getCredentials hc]
      exact omitsLoading_answer ((omitsLoading_fetched _).map _) _ _ _
  | setCredentials deviceId file ifMatch tenant =>
    have hload := omitsLoading_loadCredentials w w.settings file
    have hconnect := omitsLoading_connect w w.settings o deviceId tenant
    cases hl : loadCredentials w w.settings file with
    | error f =>
      rw [hl] at hload
      rw [Command.run, hl]
      exact fun e h => hload e (congrArg Except.error (Except.error.inj h))
    | ok loaded =>
      cases hc : connect w w.settings o deviceId tenant with
      | error f =>
        rw [hc] at hconnect
        rw [Command.run, hl]
        dsimp only
        rw [hc]
        exact fun e h => hconnect e (congrArg Except.error (Except.error.inj h))
      | ok connected =>
        rw [run_setCredentials hl hc]
        exact omitsLoading_answer (omitsLoading_ok _) _ _ _

/-- No run ends because settings cannot be loaded: it ends by reading its arguments, or as its
command does. So the error that there is for this has no run that ends with it. -/
theorem run_ne_loading (w : Surroundings) (args : List String) (wire : Client.Wire)
    (e : Settings.LoadError) : (run w args wire).1.ending ≠ .failed (.settings (.loading e)) := by
  cases hread : Invocation.read w.env args with
  | error why =>
    rw [run, hread]
    intro h
    cases h
  | ok i =>
    have homits := omitsLoading_run w i.options i.command wire
    rw [run_ending hread]
    cases hsaid : (i.command.run w i.options wire).1 with
    | ok text =>
      intro h
      cases h
    | error f => exact fun h => homits e (hsaid.trans (congrArg Except.error (Ending.failed.inj h)))

/-! ### Every run -/

/-- What a run acts on. With settings that can be loaded it acts on these, whatever else is written
in the file. With settings that cannot, it is the run in a place where nothing is set and the
settings are blank: it does not say why they cannot be loaded, and no run does. -/
theorem run_acts_on_loaded (w : Surroundings) (args : List String) (wire : Client.Wire) :
    (∀ s, Settings.load w.settingsText w.env = .ok s →
      w.settings = s ∧ ∀ text, Settings.load text w.env = .ok s →
        run { w with settingsText := text } args wire = run w args wire) ∧
    (∀ e, Settings.load w.settingsText w.env = .error e →
      Settings.load w.bare.settingsText w.bare.env = .ok {} ∧
        run w args wire = run w.bare args wire) ∧
    ∀ e, (run w args wire).1.ending ≠ .failed (.settings (.loading e)) := by
  refine ⟨fun s h => ⟨settings_of_loaded h, fun text htext => ?_⟩,
    fun e h => ⟨load_bare w, (actsLike_bare h).run_eq args wire⟩, run_ne_loading w args wire⟩
  have hsettings : w.settings = ({ w with settingsText := text } : Surroundings).settings :=
    (settings_of_loaded h).trans (settings_of_loaded htext).symm
  exact ((actsLike_of_settings hsettings).run_eq args wire).symm

/-- A place whose file of settings has a word where a number of seconds is expected. -/
def unhurried : Surroundings where
  env := [("DEVREG_DEFAULTS__OUTPUT", "json")]
  settingsPath := "config.toml"
  settingsText := some "[defaults]\ntimeout = \"soon\"\n"
  files _ := .error "No such file or directory (os error 2)"

/-- A word where a number is expected keeps the settings from being loaded. -/
theorem isNone_load_unhurried :
    (Settings.load unhurried.settingsText unhurried.env).toOption.isNone = true := by
  decide +kernel

/-- The settings of this place cannot be loaded, and showing them is the same run there as where
nothing is set. -/
theorem run_acts_on_loaded_unhurried :
    (∃ e, Settings.load unhurried.settingsText unhurried.env = .error e) ∧
    run unhurried ["config", "show"] ⟨[], []⟩ = run unhurried.bare ["config", "show"] ⟨[], []⟩ := by
  cases hload : Settings.load unhurried.settingsText unhurried.env with
  | error e => exact ⟨⟨e, rfl⟩, ((run_acts_on_loaded unhurried _ _).2.1 e hload).2⟩
  | ok s =>
    have hnone := isNone_load_unhurried
    rw [hload] at hnone
    cases hnone

/-- Settings that cannot be loaded are replaced without a word: the blank ones are shown, and a
request is sent. The format that a variable sets is lost with them. -/
theorem broken_settings_are_replaced :
    (Settings.load unhurried.settingsText unhurried.env).toOption.isNone = true ∧
    (run unhurried ["config", "show"] ⟨[], []⟩).1.ending.exitCode = 0 ∧
    (run unhurried ["credentials", "get", "4711", "-t", "T", "--registry", "http://h"]
      ⟨[.closed], []⟩).2.sent.length = 1 :=
  ⟨isNone_load_unhurried, by decide +kernel, by decide +kernel⟩

end CommandLine

end DeviceRegistry
