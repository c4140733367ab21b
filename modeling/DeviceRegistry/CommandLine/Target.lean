import DeviceRegistry.CommandLine.Failure
import DeviceRegistry.CommandLine.Grammar

/-!
# `DeviceRegistry.CommandLine.Target`: which registry a command talks to

The options and the settings together say which registry a command talks to, and how. A registry
that an option names needs no profile; without one, the profile must be there.
-/

set_option autoImplicit false

namespace DeviceRegistry.CommandLine

open DeviceRegistry.Settings (Environment Profile)

/-- Where a command sends its requests. -/
structure Target where
  profileName : String
  client : Client.Config
  /-- The tenant of the profile. -/
  tenant : Option String
  deriving DecidableEq, Repr

/-- The format that a command writes. A name that no format has stands for a table. -/
def Options.format (o : Options) (s : Settings) : Format :=
  o.output.getD ((Format.ofAnyCase? s.defaults.output).getD .table)

/-- The names of the profiles in a line. -/
def availableProfiles (s : Settings) : String :=
  if s.profiles.isEmpty then "(none)" else String.intercalate ", " (s.profiles.map Prod.fst)

/-- The profile that a command uses. -/
def Options.selectProfile (o : Options) (s : Settings) (settingsPath : String) :
    Except Failure Profile :=
  let name := s.profileName o.profile
  match s.profiles.lookup name with
  | some p => .ok p
  | none =>
    if o.registry.isSome then .ok {}
    else if o.profile.isSome then .error (.profileNotFound name (availableProfiles s))
    else .error (.noRegistry settingsPath)

/-- What a client of a profile needs to know, when options count more than the profile. -/
def Options.clientConfig (o : Options) (p : Profile) (name : String) (s : Settings)
    (env : Environment) : Except Failure Client.Config := do
  let p := { p with registry := o.registry.getD p.registry }
  let c ← (p.clientConfig name s.defaults env).mapError .ofSettingsError
  return { c with
    tls := if o.insecure then .insecure else c.tls
    timeoutSeconds := (o.timeout.map UInt64.toNat).getD c.timeoutSeconds }

/-- Where a command sends its requests. -/
def Options.target (o : Options) (s : Settings) (settingsPath : String) (env : Environment) :
    Except Failure Target := do
  let name := s.profileName o.profile
  let p ← o.selectProfile s settingsPath
  let client ← o.clientConfig p name s env
  return ⟨name, client, p.tenant⟩

/-- The tenant that a command is for: the one that an argument names, else that of the profile. -/
def Target.tenantId (t : Target) (named : Option String) : Except Failure String :=
  match named.or t.tenant with
  | some id => .ok id
  | none => .error (.validation "tenant"
      s!"pass --tenant or set \x60tenant\x60 in profile '{t.profileName}'")

end DeviceRegistry.CommandLine
