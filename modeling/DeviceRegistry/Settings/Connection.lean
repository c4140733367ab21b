import DeviceRegistry.Client.Basic
import DeviceRegistry.Settings.Document
import DeviceRegistry.Url.Reader

/-!
# `DeviceRegistry.Settings.Connection`: from settings to a client

A profile is chosen by its name, and says all that a client needs to know. The password of a profile
comes from the variable that the profile names, else from `DEVREG_PASSWORD`, else from the profile
itself; a profile without a user name needs none.
-/

set_option autoImplicit false

namespace DeviceRegistry.Settings

/-- Why settings cannot be used. -/
inductive Error where
  | validation (field reason : String)
  | profileNotFound (profile : String)
  | noCredentials (profile userName : String)
  | serialization (e : WriteError)
  | loading (e : LoadError)
  deriving Repr

/-- The text of an error in loading; a file that is malformed has no fixed text. -/
def LoadError.message? : LoadError → Option String
  | malformed => none
  | fault f => some f.mismatch.message

/-- The text of an error. -/
def Error.message : Error → String
  | validation field reason => s!"invalid {field}: {reason}"
  | profileNotFound profile => s!"profile '{profile}' not found in config"
  | noCredentials profile userName =>
    s!"no password configured for user '{userName}' in profile '{profile}'"
  | serialization e => s!"failed to serialize config: {e.message}"
  | loading e => "config loading failed: " ++ (e.message?.getD "malformed file")

/-- The name of the profile to use when one may be named. -/
def profileName (s : Settings) (name : Option String) : String :=
  (name.or s.defaultProfile).getD "default"

/-- The profile to use, with its name. -/
def profile (s : Settings) (name : Option String) : Except Error (String × Profile) :=
  let name := s.profileName name
  match s.profiles.lookup name with
  | some p => .ok (name, p)
  | none => .error (.profileNotFound name)

/-- The variable with the password of any profile. -/
def passwordVariable : String := "DEVREG_PASSWORD"

namespace Profile

/-- The password of a profile, wherever it is. -/
def password? (p : Profile) (env : Environment) : Option String :=
  ((p.passwordVariable.bind fun name => env.lookup name).or
    (env.lookup Settings.passwordVariable)).or p.password

/-- Who a client of a profile says it is. -/
def auth (p : Profile) (name : String) (env : Environment) :
    Except Error (Option Client.BasicAuth) :=
  match p.userName with
  | none => .ok none
  | some userName =>
    match p.password? env with
    | some password => .ok (some ⟨userName, password⟩)
    | none => .error (.noCredentials name userName)

/-- How certificates are checked for a profile. -/
def tls (p : Profile) (defaults : Defaults) : Client.TlsMode :=
  if p.insecure.getD defaults.insecure then .insecure
  else match p.caCertificate with
    | some path => .customCa path
    | none => .system

/-- What a client of a profile needs to know. -/
def clientConfig (p : Profile) (name : String) (defaults : Defaults) (env : Environment) :
    Except Error Client.Config := do
  let baseUrl ← match Url.parse p.registry with
    | .ok url => .ok url
    | .error _ => .error (.validation "registry" s!"invalid URL: {p.registry}")
  let auth ← p.auth name env
  return {
    baseUrl := baseUrl
    apiVersion := p.apiVersion.getD "v1"
    auth := auth
    tls := p.tls defaults
    timeoutSeconds := (p.timeout.getD defaults.timeout).toNat }

end Profile

end DeviceRegistry.Settings
