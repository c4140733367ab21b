import DeviceRegistry.Proofs.CommandLine.Requests

/-!
# `DeviceRegistry.Proofs.CommandLine.Target`: where a command sends its requests

What a command knows about its registry comes from several sources, the first of which that says
something counts (`IsFirst`): options, the profile, what holds for all profiles, and variables. The
profile itself is found by a name, which has sources of its own. Main statements:

* `target_selects`: which profile a command uses, and when it fails for want of one.
* `target_of_unknown_profile`: an option for the registry makes up for a profile that is not there.
* `target_isConfigured`: what is made of the profile, the options and the variables.
-/

set_option autoImplicit false

namespace DeviceRegistry.CommandLine

open DeviceRegistry.Settings (Environment Profile)

/-! ### Sources -/

section
variable {α : Type}

/-- The first of several sources that says something says this. -/
inductive IsFirst : List (Option α) → α → Prop
  | here (a : α) (others : List (Option α)) : IsFirst (some a :: others) a
  | there {others : List (Option α)} {a : α} (h : IsFirst others a) : IsFirst (none :: others) a

variable {a b : α} {source : Option α} {sources : List (Option α)}

/-- What comes first is in the first source, or in the others if that one says nothing. -/
theorem isFirst_cons_iff : IsFirst (source :: sources) a ↔
    source = some a ∨ source = none ∧ IsFirst sources a := by
  constructor
  · intro h
    cases h with
    | here => exact .inl rfl
    | there h => exact .inr ⟨rfl, h⟩
  · rintro (rfl | ⟨rfl, h⟩)
    · exact .here a sources
    · exact .there h

/-- Only one thing comes first. By induction on the sources, as in both cases all of them before it
say nothing. -/
theorem IsFirst.unique (ha : IsFirst sources a) : IsFirst sources b ↔ a = b := by
  refine ⟨fun hb => ?_, fun h => h ▸ ha⟩
  induction ha with
  | here a others =>
    cases hb
    rfl
  | there ha ih =>
    cases hb with
    | there hb => exact ih hb

/-- There is nothing to be found without sources. It ends the induction on a list of them. -/
theorem not_isFirst_nil : ¬ IsFirst [] a := nofun

/-- A source that says something settles what the others may not. This is how a value in place of an
absent one is chosen, as of an option over a profile. -/
theorem isFirst_getD (d : α) : IsFirst [source, some d] a ↔ source.getD d = a := by
  cases source <;> simp [isFirst_cons_iff, not_isFirst_nil]

/-- Two sources in a row are one, which is asked the second question when it says nothing to the
first. -/
theorem isFirst_or {source' : Option α} :
    IsFirst (source :: source' :: sources) a ↔ IsFirst (source.or source' :: sources) a := by
  cases source <;> simp [isFirst_cons_iff]

/-- A single source says what it says. It is the last one of every list, which is asked when no
other says anything. -/
theorem isFirst_single : IsFirst [source] a ↔ source = some a := by
  simp [isFirst_cons_iff, not_isFirst_nil]

end

variable {o : Options} {s : Settings} {path : String} {env : Environment} {p : Profile}

/-! ### Profiles -/

/-- A command without a profile fails, unless an option names the registry. -/
theorem selectProfile_of_unknown (h : s.profiles.lookup (s.profileName o.profile) = none) :
    o.selectProfile s path =
      if o.registry.isSome then .ok {}
      else if o.profile.isSome then
        .error (.profileNotFound (s.profileName o.profile) (availableProfiles s))
      else .error (.noRegistry path) := by
  unfold Options.selectProfile
  dsimp only
  rw [h]

/-- A command uses the profile that is found by its name. What the options say does not matter
then. -/
theorem selectProfile_of_known (h : s.profiles.lookup (s.profileName o.profile) = some p) :
    o.selectProfile s path = .ok p := by
  unfold Options.selectProfile
  dsimp only
  rw [h]

/-- The target of a command that uses a profile. With the profile at hand only the configuration of
the client can fail. -/
theorem target_of_profile (h : o.selectProfile s path = .ok p) :
    o.target s path env = (o.clientConfig p (s.profileName o.profile) s env).map fun client =>
      ⟨s.profileName o.profile, client, p.tenant⟩ := by
  unfold Options.target
  rw [h]
  rfl

/-- A command that has no profile has no target either, and fails for the same reason. -/
theorem target_of_error {f : Failure} (h : o.selectProfile s path = .error f) :
    o.target s path env = .error f := by
  unfold Options.target
  rw [h]
  rfl

/-- A command that asks a registry has a profile, since its client was made from one. -/
theorem exists_profile_of_asks {w : Surroundings} {c : Command} {client : Client}
    {session : Session} {r : Management.Request} (h : c.Asks w o p client session r) :
    o.selectProfile w.settings w.settingsPath = .ok p := by
  obtain ⟨named, hconnects⟩ := h.connects
  exact hconnects.profile

/-- A run that names a profile which is not there sends nothing, unless it names a registry too.
Without a profile nothing is asked, and what is not asked is not sent. -/
theorem run_of_unknown_profile {w : Surroundings} {args : List String} {i : Invocation}
    {name : String} (hread : Invocation.read w.env args = .ok i)
    (hname : i.options.profile = some name) (hunknown : w.settings.profiles.lookup name = none)
    (hregistry : i.options.registry = none) (wire : Client.Wire) : (run w args wire).2 = wire := by
  rw [run_left hread]
  rcases i.command.asks_or_run_left w i.options with ⟨p, client, session, r, hasks⟩ | hleft
  · have hprofile := exists_profile_of_asks hasks
    have hlookup :
        w.settings.profiles.lookup (w.settings.profileName i.options.profile) = none := by
      rw [hname]
      exact hunknown
    rw [selectProfile_of_unknown hlookup, hregistry, hname] at hprofile
    cases hprofile
  · exact hleft wire

/-- Which profile a command uses: the one of the name that comes first, if it is there. If not, a
command that names its registry uses a blank profile, whether it names a profile or not. A command
that names a profile only fails and lists those that there are; one that names neither has no
registry. So a request for a profile that is named but not there needs a registry that is named. -/
theorem target_selects (o : Options) (s : Settings) (path : String) (env : Environment) :
    (∃ name, IsFirst [o.profile, s.defaultProfile, some "default"] name ∧
      (∀ p, s.profiles.lookup name = some p →
        s.profile o.profile = .ok (name, p) ∧
        o.target s path env = (o.clientConfig p name s env).map (⟨name, ·, p.tenant⟩)) ∧
      (s.profiles.lookup name = none →
        (o.registry = none → o.profile.isSome →
          o.target s path env = .error (.profileNotFound name (availableProfiles s))) ∧
        (o.registry = none → o.profile = none → o.target s path env = .error (.noRegistry path)) ∧
        (o.registry.isSome →
          o.target s path env = (o.clientConfig {} name s env).map (⟨name, ·, none⟩)))) ∧
    ∀ (w : Surroundings) (args : List String) (wire : Client.Wire) (i : Invocation) (name : String),
      Invocation.read w.env args = .ok i → i.options.profile = some name →
        w.settings.profiles.lookup name = none → (run w args wire).2 ≠ wire →
          i.options.registry.isSome := by
  refine ⟨⟨s.profileName o.profile, ?_, ?_, ?_⟩, ?_⟩
  · rw [isFirst_or, isFirst_getD]
    rfl
  · intro p hknown
    refine ⟨?_, target_of_profile (selectProfile_of_known hknown)⟩
    unfold Settings.profile
    dsimp only
    rw [hknown]
  -- No such profile: an address on the command line is enough without one. Else it counts whether
  -- the profile was named.
  · intro hunknown
    have hselect : o.selectProfile s path = _ := selectProfile_of_unknown hunknown
    refine ⟨?_, ?_, ?_⟩
    · intro hregistry hprofile
      rw [hregistry, if_neg (by simp), if_pos hprofile] at hselect
      exact target_of_error hselect
    · intro hregistry hprofile
      rw [hregistry, hprofile] at hselect
      exact target_of_error hselect
    · intro hregistry
      rw [if_pos hregistry] at hselect
      exact target_of_profile hselect
  · intro w args wire i name hread hname hunknown hsent
    cases hregistry : i.options.registry with
    | none => exact absurd (run_of_unknown_profile hread hname hunknown hregistry wire) hsent
    | some registry => rfl

/-- A profile with a user. -/
def labProfile : Profile where
  registry := "https://lab"
  tenant := some "T"
  userName := some "admin"
  password := some "plain"
  passwordVariable := some "LAB_PASSWORD"
  caCertificate := some "ca.pem"
  timeout := some 12

/-- Settings with this profile alone. -/
def laboratory : Settings where
  defaultProfile := some "lab"
  profiles := [("lab", labProfile)]

/-- Naming the wrong one of a single profile fails, and lists the right one. -/
theorem target_selects_prod :
    ({ profile := some "prod" } : Options).target laboratory "config.toml" [] =
      .error (.profileNotFound "prod" "lab") := by
  obtain ⟨⟨name, hname, -, hunknown⟩, -⟩ :=
    target_selects { profile := some "prod" } laboratory "config.toml" []
  cases hname
  exact (hunknown (by decide)).1 rfl rfl

/-- A mistyped name of a profile goes unnoticed when a registry is named: a request is sent. -/
theorem unknown_profile_is_replaced :
    laboratory.profiles.lookup "prod" = none ∧
      ({ profile := some "prod", registry := some "http://h" } : Options).selectProfile laboratory
        "config.toml" = .ok {} ∧
      (run ⟨[], "config.toml", none, fun _ => .error "No such file"⟩
        ["credentials", "get", "4711", "-t", "T", "-p", "prod", "--registry", "http://h"]
        ⟨[.closed], []⟩).2.sent.length = 1 := by
  refine ⟨by decide, rfl, by decide +kernel⟩

/-! ### Configurations -/

/-- Where the password of a profile may be. -/
def passwordSources (p : Profile) (env : Environment) : List (Option String) :=
  [p.passwordVariable.bind fun name => env.lookup name, env.lookup "DEVREG_PASSWORD", p.password]

/-- Where the text of the registry may be. -/
def registrySources (o : Options) (p : Profile) : List (Option String) :=
  [o.registry, some p.registry]

/-- Certificates are left unchecked by an option, by the profile, or for all profiles. -/
def LeavesUnchecked (o : Options) (p : Profile) (s : Settings) : Prop :=
  o.insecure = true ∨ IsFirst [p.insecure, some s.defaults.insecure] true

/-- What a target says, and from where. -/
structure IsConfiguredBy (t : Target) (o : Options) (p : Profile) (s : Settings)
    (env : Environment) : Prop where
  baseUrl : ∃ text, IsFirst (registrySources o p) text ∧ Url.parse text = .ok t.client.baseUrl
  unchecked : t.client.tls = .insecure ↔ LeavesUnchecked o p s
  ownCertificate : ∀ file, t.client.tls = .customCa file ↔
    ¬ LeavesUnchecked o p s ∧ p.caCertificate = some file
  systemCertificates : t.client.tls = .system ↔ ¬ LeavesUnchecked o p s ∧ p.caCertificate = none
  timeout : ∃ seconds : UInt64, IsFirst [o.timeout, p.timeout, some s.defaults.timeout] seconds ∧
    t.client.timeoutSeconds = seconds.toNat
  apiVersion : IsFirst [p.apiVersion, some "v1"] t.client.apiVersion
  anonymous : t.client.auth = none ↔ p.userName = none
  user : ∀ userName password, t.client.auth = some ⟨userName, password⟩ ↔
    p.userName = some userName ∧ IsFirst (passwordSources p env) password
  tenant : ∀ named id, t.tenantId named = .ok id ↔ IsFirst [named, p.tenant] id
  noTenant : p.tenant = none → t.tenantId none = .error (.validation "tenant"
    s!"pass --tenant or set \x60tenant\x60 in profile '{t.profileName}'")

/-- The password of a profile is the one that comes first of its sources. -/
theorem password?_eq_some_iff {password : String} :
    p.password? env = some password ↔ IsFirst (passwordSources p env) password := by
  rw [passwordSources, isFirst_or, isFirst_or, isFirst_single]
  rfl

/-- The registry of a command is the text that comes first of its sources; the last of them always
has one. -/
theorem isFirst_registry : IsFirst (registrySources o p) (o.registry.getD p.registry) :=
  (isFirst_getD _).2 rfl

section
variable {name : String} {url : Url} {auth : Option Client.BasicAuth}

/-- A URL that cannot be read is noticed before anything else, and so even when the user has no
password. -/
theorem clientConfig_of_no_url (h : ∀ url, Url.parse (o.registry.getD p.registry) ≠ .ok url) :
    o.clientConfig p name s env =
      .error (.validation "registry" s!"invalid URL: {o.registry.getD p.registry}") := by
  unfold Options.clientConfig Profile.clientConfig
  dsimp only
  split
  · rename_i url hparse
    exact absurd hparse (h url)
  · rfl

/-- A user without a password is noticed next, whatever the rest of the profile says. -/
theorem clientConfig_of_no_auth {e : Settings.Error}
    (hurl : Url.parse (o.registry.getD p.registry) = .ok url) (hauth : p.auth name env = .error e) :
    o.clientConfig p name s env = .error (.ofSettingsError e) := by
  have hsame : ({ p with registry := o.registry.getD p.registry } : Profile).auth name env =
      .error e := hauth
  unfold Options.clientConfig Profile.clientConfig
  dsimp only
  rw [hurl, hsame]
  rfl

/-- There is nothing else that can fail: with a URL and a user there is a configuration, and this is
what it says. -/
theorem clientConfig_of_auth (hurl : Url.parse (o.registry.getD p.registry) = .ok url)
    (hauth : p.auth name env = .ok auth) :
    o.clientConfig p name s env = .ok
      { baseUrl := url
        apiVersion := p.apiVersion.getD "v1"
        auth := auth
        tls := if o.insecure then .insecure else p.tls s.defaults
        timeoutSeconds :=
          (o.timeout.map UInt64.toNat).getD (p.timeout.getD s.defaults.timeout).toNat } := by
  have hsame : ({ p with registry := o.registry.getD p.registry } : Profile).auth name env =
      .ok auth := hauth
  unfold Options.clientConfig Profile.clientConfig
  dsimp only
  rw [hurl, hsame]
  rfl

end

/-- A profile has no user, a user and the password that comes first, or a user without one. A
password without a user is not looked for. -/
theorem auth_cases (p : Profile) (name : String) (env : Environment) :
    (p.userName = none ∧ p.auth name env = .ok none) ∨
    (∃ userName password, p.userName = some userName ∧ IsFirst (passwordSources p env) password ∧
      p.auth name env = .ok (some ⟨userName, password⟩)) ∨
    ∃ userName, p.userName = some userName ∧
      (∀ password, ¬ IsFirst (passwordSources p env) password) ∧
      p.auth name env = .error (.noCredentials name userName) := by
  unfold Profile.auth
  cases huser : p.userName with
  | none => exact .inl ⟨rfl, rfl⟩
  | some userName =>
    cases hpassword : p.password? env with
    | some password =>
      exact .inr (.inl ⟨userName, password, rfl, password?_eq_some_iff.1 hpassword, rfl⟩)
    | none =>
      refine .inr (.inr ⟨userName, rfl, fun password h => ?_, rfl⟩)
      rw [← password?_eq_some_iff, hpassword] at h
      cases h

/-- A client says who it is as the profile and the sources of its password do. -/
theorem auth_eq_ok {name : String} {auth : Option Client.BasicAuth}
    (h : p.auth name env = .ok auth) :
    (auth = none ↔ p.userName = none) ∧ ∀ userName password, auth = some ⟨userName, password⟩ ↔
      p.userName = some userName ∧ IsFirst (passwordSources p env) password := by
  rcases auth_cases p name env with
    ⟨hnobody, hauth⟩ | ⟨u, pw, huser, hpassword, hauth⟩ | ⟨u, -, -, herror⟩
  · cases Except.ok.inj (h.symm.trans hauth)
    simp [hnobody]
  · cases Except.ok.inj (h.symm.trans hauth)
    simp [huser, hpassword.unique]
  · cases h.symm.trans herror

/-- The tenant of a command is the first that is named. -/
theorem tenantId_eq_ok_iff {t : Target} {named : Option String} {id : String} :
    t.tenantId named = .ok id ↔ IsFirst [named, t.tenant] id := by
  unfold Target.tenantId
  rw [isFirst_or, isFirst_single]
  cases named.or t.tenant <;> simp

/-- Certificates are checked as the options, the profile and what holds for all profiles say. A file
of certificates only counts where they are checked at all, so the two cases exclude each other. -/
theorem tls_cases (o : Options) (p : Profile) (s : Settings) :
    (LeavesUnchecked o p s ∧ (if o.insecure then .insecure else p.tls s.defaults) =
      Client.TlsMode.insecure) ∨
    (¬ LeavesUnchecked o p s ∧ (if o.insecure then .insecure else p.tls s.defaults) =
      match p.caCertificate with
      | some file => Client.TlsMode.customCa file
      | none => .system) := by
  unfold LeavesUnchecked Profile.tls
  rw [isFirst_getD]
  by_cases hoption : o.insecure = true
  · exact .inl ⟨.inl hoption, if_pos hoption⟩
  · rw [if_neg hoption]
    by_cases hprofile : p.insecure.getD s.defaults.insecure = true
    · exact .inl ⟨.inr hprofile, if_pos hprofile⟩
    · exact .inr ⟨fun h => h.elim hoption hprofile, if_neg hprofile⟩

/-- A target is configured by the first source of each of its parts. The parts are read off the
configuration, one after the other. -/
theorem isConfiguredBy_of_client {t : Target} {auth : Option Client.BasicAuth}
    (hurl : Url.parse (o.registry.getD p.registry) = .ok t.client.baseUrl)
    (hauth : p.auth t.profileName env = .ok auth)
    (hclient : o.clientConfig p t.profileName s env = .ok t.client)
    (htenant : t.tenant = p.tenant) : IsConfiguredBy t o p s env := by
  have hconfig := clientConfig_of_auth (s := s) hurl hauth
  rw [hclient] at hconfig
  have hparts := Except.ok.inj hconfig
  obtain ⟨hanonymous, huser⟩ := auth_eq_ok hauth
  -- Every source is one of options, profile, settings and what is built in. The checks of the parts
  -- follow the order of the fields.
  refine {
    baseUrl := ⟨_, isFirst_registry, hurl⟩
    unchecked := ?unchecked
    ownCertificate := fun file => ?ownCertificate
    systemCertificates := ?systemCertificates
    timeout := ⟨o.timeout.getD (p.timeout.getD s.defaults.timeout), ?first, ?timeout⟩
    apiVersion := ?apiVersion
    anonymous := ?anonymous
    user := fun userName password => ?user
    tenant := fun named id => ?tenant
    noTenant := fun hnone => ?noTenant }
  case unchecked | ownCertificate | systemCertificates =>
    rw [hparts]
    dsimp only
    rcases tls_cases o p s with ⟨hunchecked, htls⟩ | ⟨hchecked, htls⟩
    · simp [htls, hunchecked]
    · cases hcertificate : p.caCertificate <;> simp [htls, hchecked, hcertificate]
  case first =>
    rw [isFirst_or, isFirst_getD]
    cases o.timeout <;> rfl
  case timeout =>
    rw [hparts]
    cases o.timeout <;> rfl
  case apiVersion => rw [hparts, isFirst_getD]
  case anonymous => rw [hparts, ← hanonymous]
  case user => rw [hparts, ← huser]
  case tenant => rw [tenantId_eq_ok_iff, htenant]
  case noTenant =>
    unfold Target.tenantId
    rw [htenant, hnone]
    rfl

/-- A command that uses a profile has no URL, or a user without a password, or else a target. These
are the cases of `target_isConfigured`, in the order in which the program notices them. -/
theorem target_cases (hselected : o.selectProfile s path = .ok p) (env : Environment) :
    ((∀ url, Url.parse (o.registry.getD p.registry) ≠ .ok url) ∧ o.target s path env =
      .error (.validation "registry" s!"invalid URL: {o.registry.getD p.registry}")) ∨
    ∃ url, Url.parse (o.registry.getD p.registry) = .ok url ∧
      ((∃ userName, p.userName = some userName ∧
        (∀ password, ¬ IsFirst (passwordSources p env) password) ∧
        o.target s path env = .error (.noCredentials (s.profileName o.profile) userName)) ∨
      ((p.userName.isSome → ∃ password, IsFirst (passwordSources p env) password) ∧
        ∃ t, o.target s path env = .ok t ∧ IsConfiguredBy t o p s env)) := by
  rw [target_of_profile hselected]
  -- The address is checked before the password is looked for, so its error comes first.
  by_cases hparse : ∃ url, Url.parse (o.registry.getD p.registry) = .ok url
  · obtain ⟨url, hurl⟩ := hparse
    refine .inr ⟨url, hurl, ?_⟩
    rcases auth_cases p (s.profileName o.profile) env with
      ⟨hnobody, hauth⟩ | ⟨u, pw, huser, hpassword, hauth⟩ | ⟨u, huser, hnone, herror⟩
    · have hclient := clientConfig_of_auth (s := s) hurl hauth
      rw [hclient]
      exact .inr ⟨by simp [hnobody], _, rfl, isConfiguredBy_of_client hurl hauth hclient rfl⟩
    · have hclient := clientConfig_of_auth (s := s) hurl hauth
      rw [hclient]
      exact .inr ⟨fun _ => ⟨pw, hpassword⟩, _, rfl, isConfiguredBy_of_client hurl hauth hclient rfl⟩
    · rw [clientConfig_of_no_auth hurl herror]
      exact .inl ⟨u, huser, hnone, rfl⟩
  · rw [clientConfig_of_no_url (not_exists.1 hparse)]
    exact .inl ⟨not_exists.1 hparse, rfl⟩

/-- A command that uses a profile has a target exactly when the text of the registry, which an
option may give, is a URL and the user of the profile, if there is one, has a password. The URL is
looked at first. The target says what the first source of each of its parts does. -/
theorem target_isConfigured (hselected : o.selectProfile s path = .ok p) :
    ∃ registry, IsFirst (registrySources o p) registry ∧
      ((∃ t, o.target s path env = .ok t) ↔ (∃ url, Url.parse registry = .ok url) ∧
        (p.userName.isSome → ∃ password, IsFirst (passwordSources p env) password)) ∧
      ((∀ url, Url.parse registry ≠ .ok url) →
        o.target s path env = .error (.validation "registry" s!"invalid URL: {registry}")) ∧
      (∀ url userName, Url.parse registry = .ok url → p.userName = some userName →
        (∀ password, ¬ IsFirst (passwordSources p env) password) →
        o.target s path env = .error (.noCredentials (s.profileName o.profile) userName)) ∧
      ∀ t, o.target s path env = .ok t → IsConfiguredBy t o p s env := by
  refine ⟨_, isFirst_registry, ?_⟩
  -- In each of the three cases two of the statements are about other cases.
  rcases target_cases hselected env with
    ⟨hparse, htarget⟩ | ⟨url, hurl, ⟨u, huser, hnone, htarget⟩ | ⟨hpassword, t, htarget, ht⟩⟩
  · refine ⟨?_, fun _ => htarget, fun url _ hurl => absurd hurl (hparse url), ?_⟩
    · simp [htarget, hparse]
    · simp [htarget]
  · refine ⟨?_, fun hparse => absurd hurl (hparse url), ?_, ?_⟩
    · simp [htarget, huser, hnone]
    · rintro url' u' - hu' -
      cases huser.symm.trans hu'
      exact htarget
    · simp [htarget]
  · refine ⟨?_, fun hparse => absurd hurl (hparse url), ?_, ?_⟩
    · exact iff_of_true ⟨t, htarget⟩ ⟨⟨url, hurl⟩, hpassword⟩
    · intro url' u' _ hu' hnone
      obtain ⟨pw, hpw⟩ := hpassword (hu' ▸ rfl)
      exact absurd hpw (hnone pw)
    · intro t' ht'
      cases htarget.symm.trans ht'
      exact ht

/-- A profile with a user gives way to options and variables: the registry and the timeout are those
of the options, and the password is that of its own variable. -/
theorem target_isConfigured_laboratory :
    ∃ t, ({ registry := some "http://h", timeout := some 3 } : Options).target laboratory
        "config.toml" [("DEVREG_PASSWORD", "shared"), ("LAB_PASSWORD", "own")] = .ok t ∧
      t.client.auth = some ⟨"admin", "own"⟩ ∧ t.client.tls = .customCa "ca.pem" ∧
      t.client.timeoutSeconds = 3 ∧ t.tenantId none = .ok "T" := by
  have hselected : ({ registry := some "http://h", timeout := some 3 } : Options).selectProfile
      laboratory "config.toml" = .ok labProfile := selectProfile_of_known rfl
  obtain ⟨registry, hregistry, hexists, -, -, ht⟩ := @target_isConfigured _ _ _
    [("DEVREG_PASSWORD", "shared"), ("LAB_PASSWORD", "own")] _ hselected
  cases hregistry
  have hurl : ∃ url, Url.parse "http://h" = .ok url := by
    have hsome : (Url.parse "http://h").toOption.isSome = true := by decide +kernel
    obtain ⟨url, hurl⟩ := Option.isSome_iff_exists.1 hsome
    exact ⟨url, except_eq_ok_of_toOption hurl⟩
  obtain ⟨t, htarget⟩ := hexists.2 ⟨hurl, fun _ => ⟨"own", .here _ _⟩⟩
  have hconfigured := ht t htarget
  -- Neither an option nor the profile turns the checks off.
  have hchecked : ¬ LeavesUnchecked { registry := some "http://h", timeout := some 3 } labProfile
      laboratory := by
    rintro (h | h)
    · cases h
    · cases h with
      | there h => cases h
  obtain ⟨seconds, hseconds, htimeout⟩ := hconfigured.timeout
  cases hseconds
  exact ⟨t, htarget, (hconfigured.user _ _).2 ⟨rfl, .here _ _⟩,
    (hconfigured.ownCertificate _).2 ⟨hchecked, rfl⟩, htimeout,
    (hconfigured.tenant _ _).2 (.there (.here _ _))⟩

end DeviceRegistry.CommandLine
