import DeviceRegistry.Management.Endpoint
import DeviceRegistry.Settings.Decoder
import DeviceRegistry.Settings.Environment
import DeviceRegistry.Toml.Reader

/-!
# `DeviceRegistry.Settings.Basic`: the settings of the program

Settings say how output looks, how a local endpoint presents itself, and which registries there are
(`Profile`). They are loaded from a file and the variables: a variable counts more than the file,
and what neither of them sets keeps its built-in value.
-/

set_option autoImplicit false

namespace DeviceRegistry

open DeviceRegistry.Management (EndpointConfig)

namespace Settings

/-- What holds for all profiles. -/
structure Defaults where
  /-- The name of the output format. -/
  output : String := "table"
  /-- Whether certificates of servers are left unchecked. -/
  insecure : Bool := false
  /-- How long to wait for a response, in seconds. -/
  timeout : UInt64 := 30
  deriving DecidableEq, Repr

/-- A registry and how to talk to it. -/
structure Profile where
  /-- The base URL of the registry. -/
  registry : String := ""
  /-- The tenant when a command names none. -/
  tenant : Option String := none
  apiVersion : Option String := none
  userName : Option String := none
  password : Option String := none
  /-- The variable that has the password. -/
  passwordVariable : Option String := none
  /-- The file with the certificate that servers are checked against. -/
  caCertificate : Option String := none
  insecure : Option Bool := none
  timeout : Option UInt64 := none
  deriving DecidableEq, Repr

end Settings

/-- The settings. -/
structure Settings where
  defaultProfile : Option String := some "default"
  defaults : Settings.Defaults := {}
  endpoint : EndpointConfig := {}
  /-- The profiles, in the order of their names. -/
  profiles : List (String × Settings.Profile) := []
  deriving DecidableEq, Repr

namespace Settings

/-! ### Records -/

/-- How `Defaults` are written. -/
def Defaults.record : Record Defaults where
  name := "Defaults"
  blank := {}
  fields :=
    [.of "output" true .string fun v d => { d with output := v },
      .of "insecure" true .boolean fun v d => { d with insecure := v },
      .of "timeout" true (.word "u64") fun v d => { d with timeout := v }]

/-- How the endpoint is written. -/
def endpointRecord : Record EndpointConfig where
  name := "EndpointSettings"
  blank := {}
  fields :=
    [.of "api_version" true .string fun v c => { c with apiVersion := v },
      .of "max_payload_size" true (.word "usize") fun v c => { c with maxPayloadSize := v },
      .of "cors_allowed_origin" true .string fun v c => { c with corsAllowedOrigin := v }]

/-- How a `Profile` is written. -/
def Profile.record : Record Profile where
  name := "Profile"
  blank := {}
  fields :=
    [.of "registry" false .string fun v p => { p with registry := v },
      .of "tenant" false (.optional .string) fun v p => { p with tenant := v },
      .of "api_version" false (.optional .string) fun v p => { p with apiVersion := v },
      .of "username" false (.optional .string) fun v p => { p with userName := v },
      .of "password" true (.optional .string) fun v p => { p with password := v },
      .of "password_env" false (.optional .string) fun v p => { p with passwordVariable := v },
      .of "ca_cert" false (.optional .path) fun v p => { p with caCertificate := v },
      .of "insecure" false (.optional .boolean) fun v p => { p with insecure := v },
      .of "timeout" false (.optional (.word "u64")) fun v p => { p with timeout := v }]
  required := ["registry"]

/-- How all settings are written. -/
def record : Record Settings where
  name := "Config"
  blank := {}
  fields :=
    [.of "default_profile" false (.optional .string) fun v s => { s with defaultProfile := v },
      .of "defaults" true Defaults.record.decoder fun v s => { s with defaults := v },
      .of "endpoint" true endpointRecord.decoder fun v s => { s with endpoint := v },
      .of "profiles" true (.members Profile.record.decoder) fun v s => { s with profiles := v }]

/-! ### Loading -/

/-- Why settings cannot be loaded. -/
inductive LoadError where
  /-- The file is not written in the language of such files. -/
  | malformed
  /-- Something that is set does not have the right form. -/
  | fault (f : Fault)
  deriving Repr

/-- The tree of a file; one that does not exist sets nothing. -/
def ofFile (file : Option String) : Except LoadError Value :=
  match file with
  | none => .ok (.table [])
  | some text =>
    match Toml.parse text with
    | some members => .ok (.table (Value.ofTomlMembers members))
    | none => .error .malformed

/-- Loads the settings from a file, if there is one, and the variables. -/
def load (file : Option String) (env : Environment) : Except LoadError Settings := do
  let lower ← ofFile file
  (record.decoder ((ofEnvironment env).laidOver lower)).mapError .fault

end Settings

end DeviceRegistry
