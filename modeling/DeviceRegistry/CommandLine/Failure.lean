import DeviceRegistry.Settings.Connection

/-!
# `DeviceRegistry.CommandLine.Failure`: why a command fails

What ends a command, with the text, the exit code and the advice that the user gets. Failures of the
parts below are reported as failures of a command by `ofRegistryError`, `ofClientError` and
`ofSettingsError`.
-/

set_option autoImplicit false

namespace DeviceRegistry.CommandLine

/-- Why a command fails. -/
inductive Failure where
  | connectionFailed (url : String)
  | tls (reason : String)
  | timeout (seconds : Nat)
  /-- The registry does not accept the user. -/
  | authFailed (status : Status) (profile : String)
  | noCredentials (profile userName : String)
  | notFound (tenantId deviceId : String)
  | preconditionFailed (version : String)
  /-- The registry answers with any other error. -/
  | registry (status : Status) (message : String)
  | invalidPayload (path message : String)
  | validation (field reason : String)
  | profileNotFound (name available : String)
  /-- No registry is named, and no profile; the path is that of the settings. -/
  | noRegistry (path : String)
  | settings (e : Settings.Error)
  /-- A file cannot be read. -/
  | io (reason : String)
  deriving Repr

namespace Failure

/-! ### What the user gets -/

/-- The text of a failure. -/
def message : Failure → String
  | connectionFailed url => s!"Could not connect to registry at {url}"
  | tls reason => s!"TLS setup failed: {reason}"
  | timeout seconds => s!"Request timed out after {seconds}s"
  | authFailed status _ => s!"Registry rejected the request ({status.text})"
  | noCredentials profile userName =>
    s!"No password configured for user '{userName}' in profile '{profile}'"
  | notFound tenantId deviceId =>
    s!"No credentials found for device '{deviceId}' of tenant '{tenantId}'"
  | preconditionFailed version => s!"Resource version '{version}' no longer matches the registry"
  | registry status message => s!"Registry returned status {status.text}: {message}"
  | invalidPayload _ message => message
  | validation field reason => s!"Invalid value for {field}: {reason}"
  | profileNotFound name _ => s!"Profile '{name}' not found in configuration"
  | noRegistry _ => "No registry configured"
  | settings e => e.message
  | io reason => reason

/-- The exit code for what has none of its own. -/
def generalExit : Nat := 1

/-- The exit code when the user is to blame. -/
def usageExit : Nat := 2

/-- The exit code when the user is not accepted. -/
def authExit : Nat := 3

/-- The exit code when there is nothing to find. -/
def notFoundExit : Nat := 4

/-- The exit code when the version has changed. -/
def conflictExit : Nat := 6

/-- The exit code when the registry cannot be talked to. -/
def connectionExit : Nat := 7

/-- The exit code when the registry takes too long. -/
def timeoutExit : Nat := 8

/-- The exit code for an error status. -/
def statusExit (status : Status) : Nat :=
  match status.code with
  | 400 | 413 => usageExit
  | 502 | 503 => connectionExit
  | 504 => timeoutExit
  | _ => generalExit

/-- The exit code of a failure. -/
def exitCode : Failure → Nat
  | connectionFailed _ | tls _ => connectionExit
  | timeout _ => timeoutExit
  | authFailed .. | noCredentials .. => authExit
  | notFound .. => notFoundExit
  | preconditionFailed _ => conflictExit
  | registry status _ => statusExit status
  | invalidPayload .. | validation .. | profileNotFound .. | noRegistry _ => usageExit
  | settings _ | io _ => generalExit

/-- The word by which a failure can be looked up. -/
def code? : Failure → Option String
  | connectionFailed _ => "devreg::connection_failed"
  | tls _ => "devreg::tls_error"
  | timeout _ => "devreg::timeout"
  | authFailed .. => "devreg::auth_failed"
  | noCredentials .. => "devreg::no_credentials"
  | notFound .. => "devreg::not_found"
  | preconditionFailed _ => "devreg::precondition_failed"
  | registry .. => "devreg::registry_error"
  | invalidPayload .. => "devreg::invalid_payload"
  | validation .. => "devreg::validation"
  | profileNotFound .. => "devreg::profile_not_found"
  | noRegistry _ => "devreg::no_registry"
  | settings _ => "devreg::config"
  | io _ => none

/-- What the user can do. -/
def help? : Failure → Option String
  | connectionFailed url =>
    some s!"Check that the registry is running and reachable.\nURL: {url}"
  | tls _ =>
    some ("Use --insecure (-k) to accept self-signed certificates, " ++
      "or configure ca_cert in your profile.")
  | timeout _ => some "Increase timeout with --timeout or check registry responsiveness."
  | authFailed _ profile =>
    some (s!"Verify username and password of profile '{profile}'.\n" ++
      "The password is read from password_env, DEVREG_PASSWORD, or the profile.")
  | noCredentials .. => some "Set password_env in the profile or export DEVREG_PASSWORD."
  | preconditionFailed _ =>
    some "Fetch the current version with: devreg credentials get, then retry with --if-match"
  | invalidPayload path _ => some s!"Fix {path} and run the command again."
  | profileNotFound _ available =>
    some s!"Available profiles: {available}\nInspect them with: devreg config show"
  | noRegistry path =>
    some (s!"Pass --registry <URL>, or add a profile to the config file.\nExpected at: {path}")
  | notFound .. | registry .. | validation .. | settings _ | io _ => none

/-! ### Failures of the parts below -/

/-- The failure that an error of a request is. -/
def ofRegistryError : RegistryError → Failure
  | .invalidParameter name reason => validation name reason
  | e => registry e.status e.message

/-- The failure that an error of a client is. -/
def ofClientError : Client.Error → Failure
  | .timeout seconds => timeout seconds
  | .tls reason => tls reason
  | .transport (.refused url) => connectionFailed url.render
  | .invalidBaseUrl url => validation "registry" s!"{url} cannot be used as a registry base URL"
  | .payload e => ofRegistryError e
  | e => registry .badGateway e.message

/-- The failure that an error of settings is. -/
def ofSettingsError : Settings.Error → Failure
  | .validation field reason => validation field reason
  | .noCredentials profile userName => noCredentials profile userName
  | e => settings e

end Failure

end DeviceRegistry.CommandLine
