import DeviceRegistry.CommandLine.Run
import DeviceRegistry.Proofs.Management.Handle

/-!
# `DeviceRegistry.Proofs.CommandLine.Payload`: one opinion about bodies

A file is checked by the command that validates it, by the command that sends it, and by the
endpoint that the latter sends it through. Main statements:

* `loadCredentials_eq_ok_iff`: what the commands accept, and what they make of it.
* `body_checks_agree`: all of them accept the same bodies and find the same credentials in them.
-/

set_option autoImplicit false

namespace DeviceRegistry.CommandLine

open DeviceRegistry.Management (Endpoint Request Response Service Version)

variable {w : Surroundings} {s : Settings} {path : String} {bytes : List UInt8}
  {cs : List Credential}

/-! ### Files -/

/-- What is read of a file is all of it, and no more than the limit allows. A longer file is refused
before anything is decoded. -/
theorem readPayload_eq_ok_iff {limit : Nat} :
    readPayload w limit path = .ok bytes ↔ w.files path = .ok bytes ∧ bytes.length ≤ limit := by
  unfold readPayload
  cases h : w.files path with
  | error reason => simp
  | ok found =>
    by_cases hlong : limit < found.length
    · simp only [if_pos hlong, Except.ok.injEq, reduceCtorEq, false_iff, not_and]
      rintro rfl
      exact Nat.not_le.2 hlong
    · simp only [if_neg hlong, Except.ok.injEq]
      constructor
      · rintro rfl
        exact ⟨rfl, Nat.not_lt.1 hlong⟩
      · exact fun h => h.1

/-- A file is accepted when it can be read, is not too long and can be decoded. It is the same
condition under which an endpoint with these settings hands a body on. -/
theorem loadCredentials_eq_ok_iff :
    loadCredentials w s path = .ok (bytes, cs) ↔
      w.files path = .ok bytes ∧ bytes.length ≤ s.endpoint.maxPayloadSize.toNat ∧
        Credential.decodeBody bytes = .ok cs := by
  unfold loadCredentials
  constructor
  · intro h
    obtain ⟨found, hread, h⟩ := except_bind_eq_ok.1 h
    obtain ⟨cs', hdecode, h⟩ := except_bind_eq_ok.1 h
    cases h
    obtain ⟨hfile, hle⟩ := readPayload_eq_ok_iff.1 hread
    exact ⟨hfile, hle, except_mapError_eq_ok.1 hdecode⟩
  · rintro ⟨hfile, hle, hdecode⟩
    rw [readPayload_eq_ok_iff.2 ⟨hfile, hle⟩, except_bind_ok, except_mapError_eq_ok.2 hdecode]
    rfl

/-! ### Endings -/

/-- No failure ends with the exit code of success, so that the exit code tells whether a command
succeeded. -/
theorem Failure.exitCode_ne_zero (f : Failure) : f.exitCode ≠ 0 := by
  have hstatus : ∀ status, statusExit status ≠ 0 := by
    intro status
    unfold statusExit
    split <;> decide
  cases f with
  | registry status message => exact hstatus status
  | _ =>
    simp [exitCode, connectionExit, timeoutExit, authExit, notFoundExit, conflictExit, usageExit,
      generalExit]

/-- How a run ends when its command is done. -/
def Report.of (quiet : Bool) : Except Failure String → Report
  | .ok text => ⟨.success, printed quiet text⟩
  | .error f => ⟨.failed f, ""⟩

/-- The program does what its command does, and reports it. All statements about runs start from
here, once the words have been read. -/
theorem run_eq {args : List String} {i : Invocation} {wire : Client.Wire}
    (h : Invocation.read w.env args = .ok i) :
    run w args wire = (Report.of i.options.quiet (i.command.run w i.options wire).1,
      (i.command.run w i.options wire).2) := by
  rw [run, h]
  dsimp only [bind, StateT.bind]
  cases i.command.run w i.options wire with
  | mk said wire' => cases said <;> rfl

/-- The program ends as its command does. What is printed is left out, as quiet runs print
nothing. -/
theorem run_ending {args : List String} {i : Invocation} {wire : Client.Wire}
    (h : Invocation.read w.env args = .ok i) :
    (run w args wire).1.ending = match (i.command.run w i.options wire).1 with
      | .ok _ => .success
      | .error f => .failed f := by
  rw [run_eq h]
  cases (i.command.run w i.options wire).1 <;> rfl

/-- A command that reports what it has loaded succeeds when there is something to report. -/
theorem exitCode_eq_zero_iff_of_run {α : Type} {loaded : Except Failure α} {report : α → String}
    {args : List String} {i : Invocation} {wire : Client.Wire}
    (h : Invocation.read w.env args = .ok i)
    (hrun : (i.command.run w i.options wire).1 = loaded.map report) :
    (run w args wire).1.ending.exitCode = 0 ↔ ∃ a, loaded = .ok a := by
  rw [run_ending h, hrun]
  cases loaded with
  | ok a => simp [Ending.exitCode]
  | error f => simp [Ending.exitCode, f.exitCode_ne_zero]

/-- Validating a file succeeds exactly when the file is accepted. No format can make it fail, since
its report is a text in each of them. -/
theorem validate_exitCode_eq_zero_iff {args : List String} {i : Invocation} {wire : Client.Wire}
    (h : Invocation.read w.env args = .ok i) (hcommand : i.command = .validateCredentials path) :
    (run w args wire).1.ending.exitCode = 0 ↔
      ∃ bytes cs, loadCredentials w w.settings path = .ok (bytes, cs) := by
  have hrun : (i.command.run w i.options wire).1 =
      (loadCredentials w w.settings path).map fun loaded =>
        Credential.report (i.options.format w.settings) loaded.2 := by
    rw [hcommand]
    rfl
  rw [exitCode_eq_zero_iff_of_run h hrun, Prod.exists]

/-! ### Sessions -/

/-- The endpoint that a command talks to has the configuration of the settings. So it has the same
limit for bodies as the check of files. -/
theorem connect_config {o : Options} {deviceId : String} {tenant : Option String}
    {endpoint : Endpoint Client.Wire} {session : Session}
    (h : connect w s o deviceId tenant = .ok (endpoint, session)) :
    endpoint.config = s.endpoint ∧ session.deviceId = deviceId := by
  obtain ⟨target, -, h⟩ := except_bind_eq_ok.1 h
  obtain ⟨tenantId, -, h⟩ := except_bind_eq_ok.1 h
  obtain ⟨client, -, h⟩ := except_bind_eq_ok.1 h
  cases h
  exact ⟨rfl, rfl⟩

/-- A request is sent through the endpoint, and what it answers must be a success. Any other answer
is a failure that the session words, with the version that was asserted. -/
theorem exchange_run {endpoint : Endpoint Client.Wire} {session : Session} {r : Request}
    {wire : Client.Wire} :
    let f := endpoint.watched r wire
    exchange endpoint session r wire =
      (if f.response.status.isSuccess then .ok f.response
      else .error (session.failure r.ifMatch f.response), f.state) := by
  intro f
  have hresponse : f.response = _ := Endpoint.watched_eq_handle.1
  have hstate : f.state = _ := Endpoint.watched_eq_handle.2
  rw [hresponse, hstate]
  -- Watching the endpoint changes nothing, so both sides can be told by its plain answer.
  dsimp only [exchange, bind, StateT.bind]
  cases endpoint.handle r wire with
  | mk answer wire' =>
    dsimp only
    by_cases hsuccess : answer.response.status.isSuccess = true
    · rw [if_pos hsuccess, if_pos hsuccess]
      rfl
    · rw [if_neg hsuccess, if_neg hsuccess]
      rfl

/-- Getting credentials reports what its endpoint answers, once there is a connection. Every
statement on such a run goes through this equation, and none of them opens the command itself. -/
theorem run_getCredentials {o : Options} {deviceId : String} {tenant : Option String}
    {endpoint : Endpoint Client.Wire} {session : Session} {wire : Client.Wire}
    (hconnect : connect w w.settings o deviceId tenant = .ok (endpoint, session)) :
    let f := endpoint.watched (.read session.tenantId deviceId) wire
    Command.run w o (.getCredentials deviceId tenant) wire =
      (if f.response.status.isSuccess then
        (fetched f.response).map fun cs => fetchedText (o.format w.settings) cs f.response.etag
      else .error (session.failure none f.response), f.state) := by
  intro f
  rw [Command.run, hconnect]
  dsimp only [bind, StateT.bind]
  rw [exchange_run]
  by_cases hsuccess : f.response.status.isSuccess = true
  · rw [if_pos hsuccess, if_pos hsuccess]
    rfl
  · rw [if_neg hsuccess, if_neg hsuccess]
    rfl

/-- Setting credentials sends a body that was accepted, and reports what its endpoint answers. The
bytes that are sent through the endpoint are those of the file. -/
theorem run_setCredentials {o : Options} {deviceId : String} {version tenant : Option String}
    {endpoint : Endpoint Client.Wire} {session : Session} {wire : Client.Wire}
    (hload : loadCredentials w w.settings path = .ok (bytes, cs))
    (hconnect : connect w w.settings o deviceId tenant = .ok (endpoint, session)) :
    let f := endpoint.watched (.update session.tenantId deviceId bytes version) wire
    Command.run w o (.setCredentials deviceId path version tenant) wire =
      (if f.response.status.isSuccess then
        .ok (updatedText (o.format w.settings) f.response.status f.response.etag)
      else .error (session.failure version f.response), f.state) := by
  intro f
  rw [Command.run, hload]
  dsimp only
  rw [hconnect]
  dsimp only [bind, StateT.bind]
  rw [exchange_run]
  by_cases hsuccess : f.response.status.isSuccess = true
  · rw [if_pos hsuccess, if_pos hsuccess]
    rfl
  · rw [if_neg hsuccess, if_neg hsuccess]
    rfl

/-- The checks of bodies agree: a body is handed on by an endpoint, found valid by the command
that validates it, and sent by the command that sets it, under one condition. It is no longer
than the limit, and it can be decoded. So no command sends what an endpoint with its settings
would refuse. -/
theorem body_checks_agree {σ : Type} (service : Service σ) (state : σ) {t d : String}
    (ht : Endpoint.IsId t) (hd : Endpoint.IsId d) (version : Option Version) :
    -- an endpoint
    (∀ config body,
      let f := (⟨service, config⟩ : Endpoint σ).watched (.update t d body version) state
      (∀ cs, f.calls = [.update t d cs version] ↔
        body.length ≤ config.maxPayloadSize.toNat ∧ Credential.decodeBody body = .ok cs) ∧
      (f.calls = [] ∧ f.response.status.code = 413 ↔ config.maxPayloadSize.toNat < body.length) ∧
      (f.calls = [] ∧ f.response.status.code = 400 ↔
        body.length ≤ config.maxPayloadSize.toNat ∧ ¬ ∃ cs, Credential.decodeBody body = .ok cs)) ∧
    -- validating a file
    (∀ w args i path wire, Invocation.read w.env args = .ok i →
      i.command = .validateCredentials path →
      ((run w args wire).1.ending.exitCode = 0 ↔ ∃ bytes, w.files path = .ok bytes ∧
        ∃ cs, ((⟨service, w.settings.endpoint⟩ : Endpoint σ).watched
          (.update t d bytes version) state).calls = [.update t d cs version])) ∧
    -- sending a file
    (∀ w o deviceId path tenant bytes cs endpoint session wire,
      loadCredentials w w.settings path = .ok (bytes, cs) →
      connect w w.settings o deviceId tenant = .ok (endpoint, session) →
      let f := endpoint.watched (.update session.tenantId deviceId bytes version) wire
      Command.run w o (.setCredentials deviceId path version tenant) wire =
        (if f.response.status.isSuccess then
          .ok (updatedText (o.format w.settings) f.response.status f.response.etag)
        else .error (session.failure version f.response), f.state) ∧
      (Endpoint.IsId session.tenantId ∧ Endpoint.IsId deviceId →
        f.calls = [.update session.tenantId deviceId cs version]) ∧
      (¬ (Endpoint.IsId session.tenantId ∧ Endpoint.IsId deviceId) →
        f.calls = [] ∧ ∃ parameter reason,
          f.response = .ofError (.invalidParameter parameter reason))) := by
  have hids : Endpoint.checkIds (some t) (some d) = .ok (t, d) :=
    Endpoint.checkIds_eq_ok ⟨rfl, ht⟩ ⟨rfl, hd⟩
  refine ⟨?_, ?_, ?_⟩
  · intro config body f
    obtain ⟨hlong, hbad⟩ := Endpoint.watched_refused_iff
      (e := ⟨service, config⟩) (s := state) (r := .update t d body version) rfl hids
    refine ⟨fun cs => ?_, hlong, hbad⟩
    exact Endpoint.watched_calls_iff (r := .update t d body version) rfl hids
  · intro w args i path wire hread hcommand
    rw [validate_exitCode_eq_zero_iff hread hcommand]
    constructor
    · rintro ⟨bytes, cs, hload⟩
      obtain ⟨hfile, hbody⟩ := loadCredentials_eq_ok_iff.1 hload
      exact ⟨bytes, hfile, cs,
        (Endpoint.watched_calls_iff (r := .update t d bytes version) rfl hids).2 hbody⟩
    · rintro ⟨bytes, hfile, cs, hcalls⟩
      exact ⟨bytes, cs, loadCredentials_eq_ok_iff.2 ⟨hfile,
        (Endpoint.watched_calls_iff (r := .update t d bytes version) rfl hids).1 hcalls⟩⟩
  · intro w o deviceId path tenant bytes cs endpoint session wire hload hconnect f
    refine ⟨run_setCredentials hload hconnect, ?_, ?_⟩
    · rintro ⟨htenant, hdevice⟩
      obtain ⟨-, hbody⟩ := loadCredentials_eq_ok_iff.1 hload
      rw [← (connect_config hconnect).1] at hbody
      exact (Endpoint.watched_update (r := .update session.tenantId deviceId bytes version) rfl
        (Endpoint.checkIds_eq_ok ⟨rfl, htenant⟩ ⟨rfl, hdevice⟩) hbody).1
    · intro hno
      obtain ⟨parameter, reason, hinvalid⟩ : ∃ parameter reason,
          Endpoint.checkIds (some session.tenantId) (some deviceId) =
            .error (.invalidParameter parameter reason) := by
        -- The tenant is checked first, so the device is blamed only when the tenant passes.
        by_cases htenant : Endpoint.IsId session.tenantId
        · refine ⟨"device_id", Endpoint.checkIds_device ⟨_, rfl, htenant⟩ ?_⟩
          rintro ⟨_, ⟨⟩, hdevice⟩
          exact hno ⟨htenant, hdevice⟩
        · refine ⟨"tenant_id", Endpoint.checkIds_tenant _ ?_⟩
          rintro ⟨_, ⟨⟩, h⟩
          exact htenant h
      have hf : f = _ := Endpoint.watched_invalid (.inr rfl) hinvalid
      rw [hf]
      exact ⟨rfl, parameter, reason, rfl⟩

/-- A service that takes everything and keeps nothing. -/
def forgetful : Service Unit where
  read _ _ := return .ok { status := 200 }
  update _ _ _ _ := return .ok { status := 204 }

/-- A place where every file is a body with one credential, and the settings cannot be read. -/
def keyedFiles : Surroundings where
  env := []
  settingsPath := "config.toml"
  settingsText := some "="
  files _ := .ok (Text.bytes Credential.keyedText)

/-- A body with one key is accepted by all checks if it may be as long as it is, and by none if it
may be one byte shorter or if its last bracket is missing. -/
theorem body_checks_agree_keyed :
    let body := Text.bytes Credential.keyedText
    Endpoint.IsId "4711" ∧
    ((⟨forgetful, { maxPayloadSize := 68 }⟩ : Endpoint Unit).watched
      (.update "4711" "4711" body (some "1")) ()).calls =
        [.update "4711" "4711" [Credential.keyed] (some "1")] ∧
    ((⟨forgetful, { maxPayloadSize := 67 }⟩ : Endpoint Unit).watched
      (.update "4711" "4711" body (some "1")) ()).response.status.code = 413 ∧
    ((⟨forgetful, { maxPayloadSize := 68 }⟩ : Endpoint Unit).watched
      (.update "4711" "4711" body.dropLast (some "1")) ()).response.status.code = 400 ∧
    (run keyedFiles ["credentials", "validate", "a.json"] ⟨[], []⟩).1.ending.exitCode = 0 ∧
    ∃ endpoint session,
      connect keyedFiles keyedFiles.settings { registry := some "http://a" } "4711" (some "t") =
        .ok (endpoint, session) ∧
      (endpoint.watched (.update session.tenantId "4711" body (some "1")) ⟨[], []⟩).calls =
        [.update session.tenantId "4711" [Credential.keyed] (some "1")] := by
  intro body
  have hid : ∀ s, s = "4711" ∨ s = "t" → Endpoint.IsId s := by
    rintro s (rfl | rfl) <;> exact Endpoint.idPattern_isMatch_iff.1 rfl
  have hdevice : Endpoint.IsId "4711" := hid _ (.inl rfl)
  obtain ⟨hendpoint, hvalidate, hset⟩ :=
    body_checks_agree forgetful () hdevice hdevice (some "1")
  have hlength : body.length = 68 := by decide +kernel
  have hdecode : Credential.decodeBody body = .ok [Credential.keyed] :=
    Credential.decodeBody_keyedText
  -- Without its last byte the array is not closed, which is an error and not a shorter list.
  have hunclosed : ¬ ∃ cs, Credential.decodeBody body.dropLast = .ok cs := by
    have hnone : (Credential.decodeBody body.dropLast).toOption = none := by decide +kernel
    rintro ⟨cs, hcs⟩
    rw [hcs] at hnone
    cases hnone
  have hload : loadCredentials keyedFiles keyedFiles.settings "a.json" =
      .ok (body, [Credential.keyed]) :=
    loadCredentials_eq_ok_iff.2 ⟨rfl, by decide +kernel, hdecode⟩
  -- Passed on at the bound, too large one byte below it, and malformed; then the two commands.
  refine ⟨hdevice, ((hendpoint _ _).1 _).2 ⟨Nat.le_of_eq hlength, hdecode⟩,
    ((hendpoint _ _).2.1.2 (by rw [hlength]; decide)).2,
    ((hendpoint _ _).2.2.2 ⟨by decide +kernel, hunclosed⟩).2, ?_, ?_⟩
  · refine (hvalidate keyedFiles _ _ "a.json" _ rfl rfl).2 ⟨_, rfl, [Credential.keyed], ?_⟩
    exact ((hendpoint _ _).1 _).2 ⟨by decide +kernel, hdecode⟩
  · cases hconnect : connect keyedFiles keyedFiles.settings { registry := some "http://a" } "4711"
        (some "t") with
    | error f => cases hconnect
    | ok connected =>
      obtain ⟨endpoint, session⟩ := connected
      have htenant : session.tenantId = "t" := by
        cases hconnect
        rfl
      refine ⟨endpoint, session, rfl, ?_⟩
      exact (hset _ _ "4711" "a.json" _ _ _ _ _ _ hload hconnect).2.1
        ⟨hid _ (.inr htenant), hdevice⟩

end DeviceRegistry.CommandLine
