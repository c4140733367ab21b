import DeviceRegistry.Proofs.CommandLine.Payload
import DeviceRegistry.Proofs.Client.Proxy

/-!
# `DeviceRegistry.Proofs.CommandLine.ExitCode`: two ways from an error to an exit code

A client that fails ends a command by way of an endpoint, which turns the error into a status. The
error could also be turned into a failure of the command directly, by `Failure.ofClientError`. Main
statements:

* `run_exitCode_of_failed_call`: the exit code by way of the endpoint, and the two errors for which
  it is another one than that of the direct way.
-/

set_option autoImplicit false

namespace DeviceRegistry.CommandLine

open DeviceRegistry.Management (Endpoint Request Response Call)

variable {w : Surroundings} {o : Options} {client : Client} {wire : Client.Wire} {call : Call}
  {e : Client.Error}

/-- A command makes a call of a client, by a request to an endpoint in front of it. -/
inductive Command.Calls (w : Surroundings) (o : Options) (wire : Client.Wire) (client : Client) :
    Command → Call → Prop
  | get {deviceId : String} {tenant : Option String} {session : Session} {call : Call}
    (connects : connect w w.settings o deviceId tenant =
      .ok (⟨client.service, w.settings.endpoint⟩, session))
    (calls : call ∈ ((⟨client.service, w.settings.endpoint⟩ : Endpoint Client.Wire).watched
      (.read session.tenantId deviceId) wire).calls) :
    Calls w o wire client (.getCredentials deviceId tenant) call
  | set {deviceId file : String} {ifMatch tenant : Option String} {body : List UInt8}
    {cs : List Credential} {session : Session} {call : Call}
    (loads : loadCredentials w w.settings file = .ok (body, cs))
    (connects : connect w w.settings o deviceId tenant =
      .ok (⟨client.service, w.settings.endpoint⟩, session))
    (calls : call ∈ ((⟨client.service, w.settings.endpoint⟩ : Endpoint Client.Wire).watched
      (.update session.tenantId deviceId body ifMatch) wire).calls) :
    Calls w o wire client (.setCredentials deviceId file ifMatch tenant) call

/-! ### By way of the endpoint -/

/-- The exit code for a response that tells an error of a client. The failure of a command is chosen
by the status of the response, and each kind of error has one status. -/
theorem exitCode_of_tellsFailure (s : Session) (asserted : Option String) {text : String}
    {r : Response} (h : Endpoint.TellsFailure e.toServiceError.code text r) :
    r.status.isSuccess = false ∧ (s.failure asserted r).exitCode = match e with
      | .timeout _ | .transport .stalled => 8
      | .transport _ | .deserialization .. => 7
      | .invalidBaseUrl _ | .tls _ | .payload _ => 1 := by
  obtain ⟨⟨code, hrange⟩, etag, body⟩ := r
  obtain ⟨hcode, -, -⟩ := h
  dsimp only at hcode
  subst hcode
  -- The status of an error is its own, so that the exit code can be looked up.
  cases e with
  | transport fault => cases fault <;> exact ⟨rfl, rfl⟩
  | timeout _ | deserialization _ _ | invalidBaseUrl _ | tls _ | payload _ => exact ⟨rfl, rfl⟩

/-- A command whose call fails ends with what its endpoint tells of the error: by its status it is a
failure of the command, and never a success. -/
theorem Command.Calls.ending {c : Command} (hcalls : c.Calls w o wire client call)
    (hfails : client.Fails wire call e) :
    ∃ (session : Session) (asserted : Option String) (r : Response),
      (c.run w o wire).1 = .error (session.failure asserted r) ∧
        Endpoint.TellsFailure e.toServiceError.code e.toServiceError.text r := by
  cases hcalls with
  | @get deviceId tenant session call hconnect hcall =>
    have htells := Client.watched_tellsFailure rfl (Client.handsOn_iff.2 hcall) hfails
    have hfailed := (exitCode_of_tellsFailure session none htells).1
    refine ⟨session, none, _, ?_, htells⟩
    rw [run_getCredentials hconnect, hfailed]
    rfl
  | @set deviceId file ifMatch tenant body cs session call hload hconnect hcall =>
    have htells := Client.watched_tellsFailure rfl (Client.handsOn_iff.2 hcall) hfails
    have hfailed := (exitCode_of_tellsFailure session ifMatch htells).1
    refine ⟨session, ifMatch, _, ?_, htells⟩
    rw [run_setCredentials hload hconnect, hfailed]
    rfl

/-- A failed call ends the program with the exit code that the direct way gives to its error, but
for two errors: a base URL that cannot be extended counts as a failure of the registry instead of
the user's, and a body that does not arrive in time as one that took too long. -/
theorem run_exitCode_of_failed_call {args : List String} {i : Invocation}
    (hread : Invocation.read w.env args = .ok i)
    (hcalls : i.command.Calls w i.options wire client call) (hfails : client.Fails wire call e) :
    let code := (run w args wire).1.ending.exitCode
    let direct := (Failure.ofClientError e).exitCode
    (code = direct ↔ (∀ url, e ≠ .invalidBaseUrl url) ∧ e ≠ .transport .stalled) ∧
    match e with
    | .timeout _ => code = 8 ∧ direct = 8
    | .transport .stalled => code = 8 ∧ direct = 7
    | .transport _ | .deserialization .. => code = 7 ∧ direct = 7
    | .invalidBaseUrl _ => code = 1 ∧ direct = 2
    | .tls _ | .payload _ => False := by
  intro code direct
  have hcall : e.IsOfCall := hfails.isOfCall
  obtain ⟨session, asserted, r, hrun, htells⟩ := hcalls.ending hfails
  have hcode : code = (session.failure asserted r).exitCode := by
    show (run w args wire).1.ending.exitCode = _
    rw [run_ending hread, hrun]
    rfl
  rw [(exitCode_of_tellsFailure session asserted htells).2] at hcode
  -- On the way through the endpoint an error becomes a status, and this the exit code. Both codes
  -- are computed for each kind of error that a call can have.
  cases e with
  | tls _ | payload _ => cases hcall
  | timeout seconds =>
    have hdirect : direct = 8 := rfl
    exact ⟨by simp [hcode, hdirect], hcode, hdirect⟩
  | deserialization message body =>
    have hdirect : direct = 7 := rfl
    exact ⟨by simp [hcode, hdirect], hcode, hdirect⟩
  | invalidBaseUrl url =>
    have hdirect : direct = 2 := rfl
    exact ⟨by simp [hcode, hdirect], hcode, hdirect⟩
  | transport fault =>
    have hdirect : direct = 7 := by cases fault <;> rfl
    cases fault with
    | stalled => exact ⟨by simp [hcode, hdirect], hcode, hdirect⟩
    | refused _ | closed _ | cut | unsendable _ | header =>
      exact ⟨by simp [hcode, hdirect], hcode, hdirect⟩

/-- A place without files, and with settings that cannot be loaded. -/
def nowhere : Surroundings where
  env := []
  settingsPath := "config.toml"
  settingsText := some "="
  files _ := .error "No such file or directory (os error 2)"

/-- The words that ask a registry for the credentials of a device. -/
def asking (registry : String) : List String :=
  ["credentials", "get", "4711", "-t", "T", "--registry", registry]

/-- A client of an address for mail. -/
def mailbox : Client := { baseUrl := { scheme := "mailto", host := none, path := .rootless "a@b" } }

/-- A client of a registry. -/
def distant : Client :=
  { baseUrl := { scheme := "http", host := some (.domain "h"), path := .segments [""] } }

/-- Nobody can be asked at an address for mail. A registry that is refused, silent, or stops within
a body is told apart by the exit code, the last two only by the way through the endpoint. -/
theorem run_exitCode_of_failed_call_mailto :
    (mailbox.Fails ⟨[], []⟩ (.read "T" "4711") (.invalidBaseUrl "mailto:a@b") ∧
      (run nowhere (asking "mailto:a@b") ⟨[], []⟩).1.ending.exitCode = 1 ∧
      (Failure.ofClientError (.invalidBaseUrl "mailto:a@b")).exitCode = 2) ∧
    (distant.Fails ⟨[.stalled 200 []], []⟩ (.read "T" "4711") (.transport .stalled) ∧
      (run nowhere (asking "http://h") ⟨[.stalled 200 []], []⟩).1.ending.exitCode = 8 ∧
      (Failure.ofClientError (.transport .stalled)).exitCode = 7) ∧
    (distant.Fails ⟨[.silence], []⟩ (.read "T" "4711") (.timeout 30) ∧
      (run nowhere (asking "http://h") ⟨[.silence], []⟩).1.ending.exitCode = 8) := by
  have hcalls : ∀ {registry client wire},
      connect nowhere nowhere.settings { registry := some registry } "4711" (some "T") =
        .ok (⟨client.service, nowhere.settings.endpoint⟩, ⟨"default", "T", "4711"⟩) →
      (Command.getCredentials "4711" (some "T")).Calls nowhere { registry := some registry } wire
        client (.read "T" "4711") := by
    intro registry client wire hconnect
    have hid : ∀ s, s = "4711" ∨ s = "T" → Endpoint.IsId s := by
      rintro s (rfl | rfl) <;> exact Endpoint.idPattern_isMatch_iff.1 rfl
    exact .get hconnect (Endpoint.mem_calls_read_iff.2
      ⟨rfl, ⟨rfl, hid _ (.inr rfl)⟩, ⟨rfl, hid _ (.inl rfl)⟩⟩)
  have hmailbox : mailbox.Fails ⟨[], []⟩ (.read "T" "4711") (.invalidBaseUrl "mailto:a@b") := rfl
  have hstalled :
      distant.Fails ⟨[.stalled 200 []], []⟩ (.read "T" "4711") (.transport .stalled) := rfl
  have hsilence : distant.Fails ⟨[.silence], []⟩ (.read "T" "4711") (.timeout 30) := rfl
  have hread : ∀ registry, registry = "mailto:a@b" ∨ registry = "http://h" →
      Invocation.read nowhere.env (asking registry) =
        .ok ⟨{ registry := some registry }, .getCredentials "4711" (some "T")⟩ := by
    rintro registry (rfl | rfl) <;> rfl
  -- The three kinds of errors where something is to be seen: no base URL, a body that stalls, no
  -- answer.
  refine ⟨⟨hmailbox, ?_⟩, ⟨hstalled, ?_⟩, ⟨hsilence, ?_⟩⟩
  · exact (run_exitCode_of_failed_call (hread _ (.inl rfl)) (hcalls rfl) hmailbox).2
  · exact (run_exitCode_of_failed_call (hread _ (.inr rfl)) (hcalls rfl) hstalled).2
  · exact (run_exitCode_of_failed_call (hread _ (.inr rfl)) (hcalls rfl) hsilence).2.1

end DeviceRegistry.CommandLine
