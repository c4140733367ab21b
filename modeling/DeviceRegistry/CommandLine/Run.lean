import DeviceRegistry.CommandLine.Reader
import DeviceRegistry.CommandLine.Target
import DeviceRegistry.Report

/-!
# `DeviceRegistry.CommandLine.Run`: running commands

A command is a function of its arguments, of what it finds where it runs (`Surroundings`), and of
what the server of the registry does (`Client.Wire`). It ends with a text to print or a failure.
Commands that talk to a registry do so through an endpoint of their own in front of a client, so
that what a registry would refuse is refused before it is sent.
-/

set_option autoImplicit false

namespace DeviceRegistry.CommandLine

open DeviceRegistry.Management (Endpoint Request Response)
open DeviceRegistry.Settings (Environment)

/-- What a command finds where it runs. -/
structure Surroundings where
  env : Environment
  settingsPath : String
  /-- The text of the settings, if the file exists. -/
  settingsText : Option String
  /-- The bytes of a file, or why it cannot be read. -/
  files : String → Except String (List UInt8)

/-- The settings that hold for a command. Settings that cannot be loaded count as none. -/
def Surroundings.settings (w : Surroundings) : Settings :=
  ((Settings.load w.settingsText w.env).toOption).getD {}

/-! ### Files -/

/-- The bytes of a file that must not be too long. -/
def readPayload (w : Surroundings) (limit : Nat) (path : String) : Except Failure (List UInt8) :=
  match w.files path with
  | .error reason => .error (.io reason)
  | .ok bytes =>
    if limit < bytes.length then
      .error (.invalidPayload path (RegistryError.payloadTooLarge bytes.length limit).message)
    else .ok bytes

/-- The bytes of a file, and the credentials that they are. -/
def loadCredentials (w : Surroundings) (s : Settings) (path : String) :
    Except Failure (List UInt8 × List Credential) := do
  let bytes ← readPayload w s.endpoint.maxPayloadSize.toNat path
  let cs ← (Credential.decodeBody bytes).mapError fun e => .invalidPayload path e.message
  return (bytes, cs)

/-- The device of a file. -/
def loadDevice (w : Surroundings) (s : Settings) (path : String) : Except Failure Device := do
  let bytes ← readPayload w s.endpoint.maxPayloadSize.toNat path
  (Device.decoder.ofBytes bytes).mapError fun e => .invalidPayload path e.message

/-! ### Requests -/

/-- Who requests are made for. -/
structure Session where
  profileName : String
  tenantId : String
  deviceId : String

/-- The failure that a response without success is. -/
def Session.failure (s : Session) (asserted : Option String) (r : Response) : Failure :=
  match r.status.code with
  | 401 | 403 => .authFailed r.status s.profileName
  | 404 => .notFound s.tenantId s.deviceId
  | 412 => .preconditionFailed (asserted.getD "")
  | _ =>
    let message := match r.body with
      | .text text => text
      | .json v => v.render
      | .empty => "no details"
    .registry r.status message

/-- The endpoint that a command uses, and who its requests are made for. -/
def connect (w : Surroundings) (s : Settings) (o : Options) (deviceId : String)
    (tenant : Option String) : Except Failure (Endpoint Client.Wire × Session) := do
  let target ← o.target s w.settingsPath w.env
  let tenantId ← target.tenantId tenant
  let client ← (Client.ofConfig w.files target.client).mapError .ofClientError
  return (⟨client.service, s.endpoint⟩, ⟨target.profileName, tenantId, deviceId⟩)

/-- Sends a request, which must succeed. -/
def exchange (e : Endpoint Client.Wire) (s : Session) (r : Request) :
    StateM Client.Wire (Except Failure Response) := do
  let a ← e.handle r
  if a.response.status.isSuccess then return .ok a.response
  else return .error (s.failure r.ifMatch a.response)

/-! ### Reports -/

/-- The credentials that a response has. -/
def fetched (r : Response) : Except Failure (List Credential) :=
  match r.body with
  | .json v => (Credential.decodeArray v).mapError .ofRegistryError
  | _ => .ok []

/-- What reading credentials reports. The version is only shown below a table. -/
def fetchedText (format : Format) (cs : List Credential) (version : Option String) : String :=
  let text := Credential.report format cs
  match format, version with
  | .table, some v => text ++ "\nVersion: " ++ v
  | _, _ => text

/-- What replacing credentials reports. -/
def updatedText (format : Format) (status : Status) (version : Option String) : String :=
  match format with
  | .table =>
    match version with
    | some v => s!"Credentials updated (version {v})"
    | none => "Credentials updated"
  | f => f.render (.ofPresent
      [some ("status", .number (.ofNat status.code (Nat.lt_trans status.code_lt (by decide)))),
        version.map fun v => ("version", .string v)])

/-- What showing the settings reports. -/
def settingsText (format : Format) (s : Settings) : Except Failure String :=
  let text : Except Failure String := match format with
    | .table => s.toToml.mapError fun e => .ofSettingsError (.serialization e)
    | f => .ok (f.render s.document)
  text.map fun t => String.ofList (Text.trimBack t.toList)

/-! ### Commands -/

/-- Runs a command: the text that it prints, or why it fails. -/
def Command.run (w : Surroundings) (o : Options) (c : Command) :
    StateM Client.Wire (Except Failure String) :=
  let s := w.settings
  let format := o.format s
  match c with
  | .settingsPath => return .ok w.settingsPath
  | .showSettings => return settingsText format s
  | .validateDevice file => return (loadDevice w s file).map (Device.report format)
  | .validateCredentials file =>
    return (loadCredentials w s file).map fun (_, cs) => Credential.report format cs
  | .getCredentials deviceId tenant =>
    match connect w s o deviceId tenant with
    | .error f => return .error f
    | .ok (endpoint, session) => do
      let answer ← exchange endpoint session (.read session.tenantId deviceId)
      return answer.bind fun r => (fetched r).map fun cs => fetchedText format cs r.etag
  | .setCredentials deviceId file ifMatch tenant =>
    match loadCredentials w s file with
    | .error f => return .error f
    | .ok (body, _) =>
      match connect w s o deviceId tenant with
      | .error f => return .error f
      | .ok (endpoint, session) => do
        let answer ← exchange endpoint session (.update session.tenantId deviceId body ifMatch)
        return answer.map fun r => updatedText format r.status r.etag

/-- How the program ends. -/
inductive Ending where
  | success
  | stopped (why : Stop)
  | failed (f : Failure)
  deriving Repr

/-- The exit code of an ending. -/
def Ending.exitCode : Ending → Nat
  | success => 0
  | stopped why => why.exitCode
  | failed f => f.exitCode

/-- How the program ends, and what it has printed. -/
structure Report where
  ending : Ending
  output : String := ""
  deriving Repr

/-- What is printed for a text. -/
def printed (quiet : Bool) (text : String) : String :=
  if quiet || text = "" then "" else text ++ "\n"

/-- Runs the program. -/
def run (w : Surroundings) (args : List String) : StateM Client.Wire Report :=
  match Invocation.read w.env args with
  | .error why => return ⟨.stopped why, ""⟩
  | .ok i => do
    match ← i.command.run w i.options with
    | .ok text => return ⟨.success, printed i.options.quiet text⟩
    | .error f => return ⟨.failed f, ""⟩

end DeviceRegistry.CommandLine
