import DeviceRegistry.Json.Printer
import DeviceRegistry.Settings.Basic
import DeviceRegistry.Toml.Printer

/-!
# `DeviceRegistry.Settings.Document`: settings as a text

Settings are shown as a document, or as a file that would set them. Neither form has the passwords.
-/

set_option autoImplicit false

namespace DeviceRegistry.Settings

open DeviceRegistry.Management (EndpointConfig)

/-! ### Documents -/

/-- A member that is null when there is no value. -/
def nullable {α : Type} (f : α → Json.Value) (a : Option α) : Json.Value := (a.map f).getD .null

/-- A number of 64 bits as a document. -/
def wordValue (n : UInt64) : Json.Value := .number (.ofNat n.toNat n.toNat_lt)

/-- What holds for all profiles, as a document. -/
def Defaults.document (d : Defaults) : Json.Value := .object
  [("output", .string d.output), ("insecure", .bool d.insecure), ("timeout", wordValue d.timeout)]

/-- How the endpoint presents itself, as a document. -/
def endpointDocument (c : EndpointConfig) : Json.Value := .object
  [("api_version", .string c.apiVersion), ("max_payload_size", wordValue c.maxPayloadSize),
    ("cors_allowed_origin", .string c.corsAllowedOrigin)]

/-- A profile as a document. -/
def Profile.document (p : Profile) : Json.Value := .object
  [("registry", .string p.registry), ("tenant", nullable .string p.tenant),
    ("api_version", nullable .string p.apiVersion), ("username", nullable .string p.userName),
    ("password_env", nullable .string p.passwordVariable),
    ("ca_cert", nullable .string p.caCertificate), ("insecure", nullable .bool p.insecure),
    ("timeout", nullable wordValue p.timeout)]

/-- Settings as a document. -/
def document (s : Settings) : Json.Value := .object
  [("default_profile", nullable .string s.defaultProfile), ("defaults", s.defaults.document),
    ("endpoint", endpointDocument s.endpoint),
    ("profiles", .object (s.profiles.map fun (name, p) => (name, p.document)))]

/-! ### Files -/

/-- Why settings cannot be written as a file: a number has no form there. -/
inductive WriteError where
  | wordOutOfRange
  deriving DecidableEq, Repr

/-- The text of such an error. -/
def WriteError.message : WriteError → String
  | wordOutOfRange => "out-of-range value for u64 type"

/-- A number of 64 bits in a file, where integers have a sign. -/
def wordToml (n : UInt64) : Except WriteError Toml.Value :=
  if n.toNat < 0x8000000000000000 then .ok (.integer n.toNat) else .error .wordOutOfRange

/-- A member that is left out when there is no value. -/
def present (name : String) (v : Option Toml.Value) : List (String × Toml.Value) :=
  (v.map fun v => (name, v)).toList

/-- What holds for all profiles, as members of a table. -/
def Defaults.table (d : Defaults) : Except WriteError (List (String × Toml.Value)) := do
  let timeout ← wordToml d.timeout
  return [("output", .string d.output), ("insecure", .boolean d.insecure), ("timeout", timeout)]

/-- How the endpoint presents itself, as members of a table. -/
def endpointTable (c : EndpointConfig) : Except WriteError (List (String × Toml.Value)) := do
  let size ← wordToml c.maxPayloadSize
  return [("api_version", .string c.apiVersion), ("max_payload_size", size),
    ("cors_allowed_origin", .string c.corsAllowedOrigin)]

/-- A profile as members of a table. -/
def Profile.table (p : Profile) : Except WriteError (List (String × Toml.Value)) := do
  let timeout ← p.timeout.mapM wordToml
  return ("registry", .string p.registry) ::
    (present "tenant" (p.tenant.map .string) ++
      present "api_version" (p.apiVersion.map .string) ++
      present "username" (p.userName.map .string) ++
      present "password_env" (p.passwordVariable.map .string) ++
      present "ca_cert" (p.caCertificate.map .string) ++
      present "insecure" (p.insecure.map .boolean) ++
      present "timeout" timeout)

/-- Settings as members of a table. -/
def table (s : Settings) : Except WriteError (List (String × Toml.Value)) := do
  let defaults ← s.defaults.table
  let endpoint ← endpointTable s.endpoint
  let profiles ← s.profiles.mapM fun (name, p) => do return (name, Toml.Value.table (← p.table))
  return present "default_profile" (s.defaultProfile.map .string) ++
    [("defaults", .table defaults), ("endpoint", .table endpoint), ("profiles", .table profiles)]

/-- Settings as the text of a file. -/
def toToml (s : Settings) : Except WriteError String := s.table.map Toml.render

end DeviceRegistry.Settings
