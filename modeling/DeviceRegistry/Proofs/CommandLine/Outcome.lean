import DeviceRegistry.Proofs.Client.Read
import DeviceRegistry.Proofs.CommandLine.Requests
import DeviceRegistry.Proofs.Credential.Body

/-!
# `DeviceRegistry.Proofs.CommandLine.Outcome`: from a reply to the end of a run

A command that has sent its request ends by what the server replies. The status passes the client
and the endpoint and becomes an exit code; the credentials are decoded by the client, encoded by the
endpoint, and decoded once more by the command. Main statements:

* `fetched_watched`: decoding the credentials once more never fails.
* `exitCode_failure`: the exit code for a status that is no success.
* `Command.Asks.concludes`: how a command ends when its request is replied to.
* `run_exitCode_of_reply`: how a run ends when its request is replied to.
-/

set_option autoImplicit false

namespace DeviceRegistry

open DeviceRegistry.Json (Value)
open DeviceRegistry.Management (Endpoint EndpointConfig Request Response Call Outcome Version)
open DeviceRegistry.Management.Endpoint (TellsRead TellsFailure)

namespace Client

variable {c : Client} {wire : Wire} {reply : Reply} {rest : List Reply} {url : Url}
  {e : Endpoint Wire} {t d : String} {cs : List Credential}

/-! ### Replies with credentials -/

/-- The credentials that a reply has, when its body has arrived and can be decoded. -/
def Reply.credentials? : Reply → Option (List Credential)
  | .response _ _ body => (decoded body).toOption
  | _ => none

/-- A reply that opens with a status and has credentials is a response with that status, whose body
has arrived and is decoded to them. -/
theorem Reply.credentials?_eq_some {status : Nat} {headers : List (String × String)}
    (hopening : reply.opening? = some (status, headers)) (h : reply.credentials? = some cs) :
    ∃ body, reply = .response status headers body ∧ decoded body = .ok cs := by
  cases reply with
  | response status' headers' body =>
    cases hopening
    refine ⟨body, rfl, ?_⟩
    cases hdecoded : decoded body with
    | ok cs' =>
      rw [Reply.credentials?, hdecoded] at h
      rw [Option.some.inj h]
    | error err =>
      rw [Reply.credentials?, hdecoded] at h
      cases h
  | cut _ _ | stalled _ _ | closed | silence => cases h

/-- Without credentials there is an error: of the text, when the body has arrived and cannot be
decoded, or of the connection, when it has not. Its status tells the two apart. -/
theorem outcomeOfRead_of_no_credentials {headers : List (String × String)} (seconds : Nat)
    (hopening : reply.opening? = some (200, headers)) (h : reply.credentials? = none) :
    ∃ received err, reply.received (bareUrl url) seconds = .ok received ∧
      outcomeOfRead received = .error err ∧
      err.toServiceError.code = if reply = .stalled 200 headers then 504 else 502 := by
  -- A whole body that does not decode, one that breaks off, and one that stalls. No other reply has
  -- a status of success.
  cases reply with
  | response status headers' body =>
    cases hopening
    cases hdecoded : decoded body with
    | ok cs =>
      rw [Reply.credentials?, hdecoded] at h
      cases h
    | error err =>
      refine ⟨_, .deserialization err.message (Text.lossy body), rfl, ?_, rfl⟩
      rw [outcomeOfRead_of_ok, hdecoded]
  | cut status headers' =>
    cases hopening
    exact ⟨_, .transport .cut, rfl, rfl, rfl⟩
  | stalled status headers' =>
    cases hopening
    exact ⟨_, .transport .stalled, rfl, rfl, (if_pos rfl).symm⟩
  | closed | silence => cases hopening

/-- What a client decodes is decoded from what it is encoded as. The endpoint encodes the
credentials that its client has decoded, so that the command can always decode them again. -/
theorem decodeAll_of_decoded {body : List UInt8} (h : decoded body = .ok cs) :
    Credential.decodeAll (Credential.encodeAll cs) = .ok cs := by
  obtain ⟨items, hitems, -, hall⟩ := Credential.list_decoder_eq_ok_iff.1 h
  exact Credential.decodeAll_encodeAll_of_body hitems hall

/-- The credentials of an outcome were decoded by its client from some body. No other outcome of
reading has a payload. -/
theorem payload_of_read {o : Outcome (List Credential)} (h : (c.read t d wire).1 = .ok o)
    (hcs : o.payload = some cs) : ∃ body, decoded body = .ok cs := by
  cases hurl : c.credentialsUrl t d with
  | error err =>
    rw [read_eq_of_error hurl] at h
    cases h
  | ok url =>
    rw [read_eq hurl] at h
    obtain ⟨received, -, hreceived⟩ := except_bind_eq_ok.1 h
    obtain ⟨status, headers, body⟩ := received
    unfold outcomeOfRead at hreceived
    dsimp only at hreceived
    -- Another status than success with a body gives no payload, nor does a body that did not
    -- arrive.
    split at hreceived
    · cases hreceived
      cases hcs
    · split at hreceived
      · cases hreceived
      · rename_i body
        cases hdecoded : decoded body with
        | error err =>
          rw [show (Json.Decoder.list Credential.decoder).ofBytes _ = _ from hdecoded] at hreceived
          cases hreceived
        | ok cs' =>
          rw [show (Json.Decoder.list Credential.decoder).ofBytes _ = _ from hdecoded] at hreceived
          cases hreceived
          cases hcs
          exact ⟨body, hdecoded⟩

end Client

namespace CommandLine

open DeviceRegistry.Client (Wire Reply versionOf)

variable {w : Surroundings} {o : Options} {c : Command} {p : Settings.Profile} {client : Client}
  {session : Session} {r : Request} {wire : Wire} {reply : Reply} {rest : List Reply}
  {s : Status} {headers : List (String × String)}

/-! ### Decoding once more -/

/-- No response to reading has a body that cannot be decoded once more: what the endpoint writes
there is the encoding of what its client has decoded, and any other body counts as no
credentials. -/
theorem fetched_watched (client : Client) (config : EndpointConfig) (t d : String) (wire : Wire) :
    ∃ cs, fetched ((⟨client.service, config⟩ : Endpoint Wire).watched (.read t d) wire).response =
      .ok cs := by
  -- Only the outcome 200 has a body that is decoded.
  have hother : ∀ {response : Response}, (∀ v, response.body ≠ .json v) →
      fetched response = .ok [] := by
    intro response hno
    unfold fetched
    split
    · rename_i v hbody
      exact absurd hbody (hno v)
    · rfl
  have hfailure : ∀ {code text} {response : Response}, TellsFailure code text response →
      fetched response = .ok [] := by
    rintro code text response ⟨-, hbody, -⟩
    exact hother fun v hv => by rw [hbody] at hv; cases hv
  cases hids : Endpoint.checkIds (some t) (some d) with
  | error err =>
    rw [Endpoint.watched_invalid (r := .read t d) (.inl rfl) hids]
    exact ⟨[], rfl⟩
  | ok ids =>
    obtain ⟨-, -, htells⟩ := Endpoint.watched_read (r := .read t d)
      (e := ⟨client.service, config⟩) (s := wire) rfl hids
    generalize (Endpoint.watched _ (.read t d) wire).response = response at htells ⊢
    have hsaid : ((⟨client.service, config⟩ : Endpoint Wire).service.read ids.1 ids.2 wire).1 =
        (client.read ids.1 ids.2 wire).1.mapError Client.Error.toServiceError := rfl
    rw [hsaid] at htells
    cases hread : (client.read ids.1 ids.2 wire).1 with
    | error err =>
      rw [hread] at htells
      exact ⟨[], hfailure htells⟩
    | ok outcome =>
      rw [hread] at htells
      change TellsRead (.ok outcome) response at htells
      unfold TellsRead at htells
      dsimp only at htells
      split at htells
      · obtain ⟨-, htells⟩ := htells
        split at htells
        · -- The body is what the client has decoded, or nothing.
          refine ⟨outcome.payload.getD [], ?_⟩
          unfold fetched
          rw [htells.1]
          have hagain : Credential.decodeAll (Credential.encodeAll (outcome.payload.getD [])) =
              .ok (outcome.payload.getD []) := by
            cases hpayload : outcome.payload with
            | none => rfl
            | some cs =>
              obtain ⟨body, hdecoded⟩ := Client.payload_of_read hread hpayload
              exact Client.decodeAll_of_decoded hdecoded
          dsimp only [Credential.decodeArray]
          rw [hagain]
          rfl
        · exact ⟨[], hother fun v hv => by rw [htells.1] at hv; cases hv⟩
      · exact ⟨[], hfailure htells⟩

/-! ### Exit codes -/

/-- The exit code for the status of an answer that is no success. -/
def exitCodeOf : Nat → Nat
  | 401 | 403 => 3
  | 404 => 4
  | 412 => 6
  | 400 | 413 => 2
  | 502 | 503 => 7
  | 504 => 8
  | _ => 1

/-- The exit code of a failed answer is that of its status. The session words the failure in its own
way for some statuses, but each of its wordings keeps the code. -/
theorem exitCode_failure (session : Session) (asserted : Option String) (a : Response) :
    (session.failure asserted a).exitCode = exitCodeOf a.status.code := by
  obtain ⟨⟨code, hcode⟩, etag, body⟩ := a
  unfold Session.failure
  dsimp only
  split
  · rfl
  · rfl
  · rfl
  · rfl
  · dsimp only [Failure.exitCode, Failure.statusExit]
    unfold exitCodeOf
    split <;> split <;> first | rfl | simp_all

/-! ### Commands -/

/-- A command can use a reply that is a success: when it reads, the status 200 promises credentials
in the body. -/
def Command.CanUse (s : Status) (reply : Reply) : Command → Prop
  | .getCredentials .. => s.code = 200 → ∃ cs, reply.credentials? = some cs
  | _ => True

/-- Only of the status 200 is anything expected, as only then there are credentials to show. -/
theorem Command.code_of_not_canUse (h : ¬ c.CanUse s reply) : s.code = 200 := by
  cases c with
  | getCredentials deviceId tenant => exact (Classical.not_imp.1 h).1
  | _ => exact absurd trivial h

/-- What a command shows of a reply that it can use. -/
def Command.text (format : Format) (s : Status) (headers : List (String × String)) (reply : Reply) :
    Command → String
  | .getCredentials .. =>
    if s.code = 200 then fetchedText format (reply.credentials?.getD []) (versionOf headers)
    else fetchedText format [] none
  | _ => updatedText format s (versionOf headers)

/-- How a command ends when the server replies. -/
structure Command.Concludes (format : Format) (s : Status) (headers : List (String × String))
    (reply : Reply) (c : Command) (said : Except Failure String) : Prop where
  /-- A success that can be used is shown. -/
  succeeds : s.isSuccess = true → c.CanUse s reply → said = .ok (c.text format s headers reply)
  /-- Any other status is told by an exit code. -/
  refused : s.isSuccess = false → ∃ f, said = .error f ∧ f.exitCode = exitCodeOf s.code
  /-- A success that cannot be used is the fault of the server. -/
  garbled : s.isSuccess = true → ¬ c.CanUse s reply →
    ∃ f, said = .error f ∧ f.exitCode = if reply = .stalled 200 headers then 8 else 7

/-- A response with the status of a reply that can be used ends a command as it should: its text is
shown if it is a success, and its status is told by the exit code if not. -/
theorem Command.concludes_of_response {format : Format} {said : Except Failure String}
    (session : Session) (asserted : Option Version) (a : Response) (huse : c.CanUse s reply)
    (hstatus : a.status = s)
    (hsaid : said = if a.status.isSuccess then .ok (c.text format s headers reply)
      else .error (session.failure asserted a)) :
    c.Concludes format s headers reply said := by
  subst hstatus
  -- The status decides between the first two, and the third cannot be when the reply is of use.
  constructor
  case succeeds =>
    intro hsuccess _
    rw [hsaid, if_pos hsuccess]
  case refused =>
    intro hfails
    refine ⟨session.failure asserted a, ?_, exitCode_failure session asserted a⟩
    rw [hsaid, hfails]
    rfl
  case garbled =>
    intro _ hno
    exact absurd huse hno

/-- A response that tells of a reply that cannot be used ends a command as it should. Such a
response has a status of the endpoint, 502 or 504, whatever status the server has replied with. -/
theorem Command.concludes_of_garbled {format : Format} (session : Session)
    (asserted : Option Version) (a : Response) (text : Except Failure String)
    (hno : ¬ c.CanUse .ok reply)
    (hstatus : a.status.code = if reply = .stalled 200 headers then 504 else 502) :
    c.Concludes format .ok headers reply (if a.status.isSuccess then text
      else .error (session.failure asserted a)) := by
  have hcode := exitCode_failure session asserted a
  have hfails : a.status.isSuccess = false := by
    unfold Status.isSuccess
    rw [hstatus]
    split <;> rfl
  rw [hstatus] at hcode
  rw [hfails]
  -- The service answers with an error of its own in place of the status of success, so only the
  -- third can be.
  constructor
  case succeeds =>
    intro _ huse
    exact absurd huse hno
  case refused =>
    intro h
    cases h
  case garbled =>
    intro _ _
    refine ⟨_, rfl, ?_⟩
    rw [hcode]
    split <;> rfl

/-- The credentials of a response are those that it encodes. They are decoded a second time from
what the endpoint has written, and that cannot fail. -/
theorem fetched_of_decoded {body : List UInt8} {cs : List Credential} {a : Response}
    (hdecoded : Client.decoded body = .ok cs)
    (hbody : a.body = .json (.array (Credential.encodeAll cs))) : fetched a = .ok cs := by
  unfold fetched
  rw [hbody]
  dsimp only [Credential.decodeArray]
  rw [Client.decodeAll_of_decoded hdecoded]
  rfl

variable {call : Call} {url : Url} {deviceId : String} {tenant : Option String}

/-- A command that reads ends as it should. The endpoint tells what the reply says; with the status
200 the credentials of the reply are decoded, encoded and decoded again on their way. -/
theorem run_getCredentials_concludes
    (hconnect : connect w w.settings o deviceId tenant =
      .ok (⟨client.service, w.settings.endpoint⟩, session))
    (hcall : Client.HandsOn w.settings.endpoint.maxPayloadSize.toNat
      (.read session.tenantId deviceId) call)
    (hreaches : client.Reaches call url) (hreply : wire.replies = reply :: rest)
    (hopening : reply.opening? = some (s.code, headers)) :
    let c := Command.getCredentials deviceId tenant
    c.Concludes (o.format w.settings) s headers reply (c.run w o wire).1 := by
  intro c
  obtain ⟨rfl, -, -⟩ := hcall.of_read
  rw [run_getCredentials hconnect]
  dsimp only
  -- With the status 200 the body decides; any other answer has nothing to decode.
  by_cases h200 : s.code = 200
  · obtain rfl : s = .ok := Endpoint.status_eq_ok h200
    cases hcredentials : reply.credentials? with
    | some cs =>
      have huse : c.CanUse .ok reply := fun _ => ⟨cs, hcredentials⟩
      have htext : c.text (o.format w.settings) .ok headers reply =
          fetchedText (o.format w.settings) cs (versionOf headers) := by
        dsimp only [c, Command.text]
        rw [hcredentials, if_pos h200]
        rfl
      obtain ⟨body, hbody, hdecoded⟩ := Client.Reply.credentials?_eq_some hopening hcredentials
      rw [hbody] at hreply
      rw [Client.watched_read_of_decoded rfl hcall hreaches hreply hdecoded]
      refine Command.concludes_of_response session none 
        { status := .ok, etag := versionOf headers,
          body := .json (.array (Credential.encodeAll cs)) } huse rfl ?_
      rw [htext, fetched_of_decoded hdecoded rfl]
      rfl
    | none =>
      obtain ⟨received, err, hreceived, houtcome, hcode⟩ :=
        Client.outcomeOfRead_of_no_credentials _ hopening hcredentials
      have hfails := Client.fails_of_outcome hreaches hreply hreceived houtcome
      obtain ⟨text, htells, -⟩ := Client.watched_reports
        (e := ⟨client.service, w.settings.endpoint⟩) rfl hcall hfails
      rw [hcode] at htells
      have hno : ¬ c.CanUse .ok reply := by
        intro huse
        obtain ⟨cs, hcs⟩ := huse rfl
        rw [hcredentials] at hcs
        cases hcs
      exact Command.concludes_of_garbled session none _ _ hno htells
  · have huse : c.CanUse s reply := fun h => absurd h h200
    rw [Client.watched_read_of_other rfl hcall hreaches hreply hopening h200]
    have htext : c.text (o.format w.settings) s headers reply =
        fetchedText (o.format w.settings) [] none := if_neg h200
    refine Command.concludes_of_response session none (.ofStatus s) huse rfl ?_
    rw [htext]
    rfl

/-- A command that asks ends as its endpoint responds. Only reading looks at the body of the reply,
so the other command can use every success. -/
theorem Command.Asks.concludes (h : c.Asks w o p client session r)
    (hcall : Client.HandsOn w.settings.endpoint.maxPayloadSize.toNat r call)
    (hreaches : client.Reaches call url) (hreply : wire.replies = reply :: rest)
    (hopening : reply.opening? = some (s.code, headers)) :
    c.Concludes (o.format w.settings) s headers reply (c.run w o wire).1 := by
  cases h with
  | get hconnect hmade =>
    exact run_getCredentials_concludes hconnect hcall hreaches hreply hopening
  | set hload hconnect hmade =>
    obtain ⟨cs, rfl, -⟩ := hcall.of_update
    rw [run_setCredentials hload hconnect,
      Client.watched_update_of_reply rfl hcall hreaches hreply hopening]
    exact Command.concludes_of_response session _ _ trivial rfl rfl

/-! ### Runs -/

/-- Statuses are successes by their first digit. So a status with no name of its own counts as well.
-/
theorem isSuccess_iff : s.isSuccess = true ↔ 200 ≤ s.code ∧ s.code < 300 := by
  simp [Status.isSuccess]

/-- A run that has sent its request ends as its command concludes from the reply. That something was
sent tells that the command asks a registry, and that its request was handed on. -/
theorem run_concludes {args : List String} {i : Invocation}
    (hread : Invocation.read w.env args = .ok i) (hsent : (run w args wire).2.sent ≠ wire.sent)
    (hreply : wire.replies = reply :: rest) (hopening : reply.opening? = some (s.code, headers)) :
    ∃ said, (run w args wire).1 = Report.of i.options.quiet said ∧
      i.command.Concludes (i.options.format w.settings) s headers reply said := by
  rw [run_eq hread] at hsent
  refine ⟨_, congrArg Prod.fst (run_eq hread), ?_⟩
  -- Only a command that asks has sent anything, and the reply to it is the first one.
  rcases i.command.asks_or_run_left w i.options with ⟨p, client, session, r, hasks⟩ | hleft
  · have hne : (i.command.run w i.options wire).2 ≠ wire := fun h => hsent (congrArg Wire.sent h)
    obtain ⟨call, url, reply', rest', hcall, hreaches, hreply', -⟩ := hasks.exists_request hne
    rw [hreply] at hreply'
    cases hreply'
    exact hasks.concludes hcall hreaches hreply hopening
  · exact absurd (congrArg Wire.sent (hleft wire)) hsent

/-- The exit code of a run that has sent its request is a function of the reply: it is 0 for a
success that can be used, and nothing is printed otherwise. A success that cannot be used is the
fault of the server, whose body is no array of credentials or is cut (7). A 200 whose body does not
arrive within the timeout counts as no answer in time (8), and not as a body that cannot be decoded:
none has been received. The credentials of a response can always be decoded once more. -/
theorem run_exitCode_of_reply {args : List String} {i : Invocation}
    (hread : Invocation.read w.env args = .ok i) (hsent : (run w args wire).2.sent ≠ wire.sent)
    (hreply : wire.replies = reply :: rest) (hopening : reply.opening? = some (s.code, headers)) :
    let report := (run w args wire).1
    let code := report.ending.exitCode
    (code = 0 ↔ (200 ≤ s.code ∧ s.code < 300) ∧ i.command.CanUse s reply) ∧
    (¬ (200 ≤ s.code ∧ s.code < 300) → code = exitCodeOf s.code) ∧
    (¬ i.command.CanUse s reply → s.code = 200 ∧
      code = if reply = .stalled 200 headers then 8 else 7) ∧
    (code = 0 → report.output = printed i.options.quiet
      (i.command.text (i.options.format w.settings) s headers reply)) ∧
    (code ≠ 0 → report.output = "") ∧
    (∀ (client : Client) config t d wire, ∃ cs, fetched
      ((⟨client.service, config⟩ : Endpoint Wire).handle (.read t d) wire).1.response =
        .ok cs) := by
  intro report code
  obtain ⟨said, hreport, hconcludes⟩ := run_concludes hread hsent hreply hopening
  have hagain : ∀ (client : Client) config t d wire, ∃ cs, fetched
      ((⟨client.service, config⟩ : Endpoint Wire).handle (.read t d) wire).1.response = .ok cs := by
    intro client config t d wire
    rw [← Endpoint.watched_eq_handle.1]
    exact fetched_watched client config t d wire
  have hfails : ∀ f, said = .error f → code = f.exitCode ∧ code ≠ 0 ∧ report.output = "" := by
    rintro f rfl
    have hcode : code = f.exitCode := congrArg (·.ending.exitCode) hreport
    exact ⟨hcode, hcode ▸ f.exitCode_ne_zero, congrArg Report.output hreport⟩
  -- A success that can be used, one that cannot, and any other status.
  by_cases hsuccess : s.isSuccess = true
  · have hrange := isSuccess_iff.1 hsuccess
    by_cases huse : i.command.CanUse s reply
    · obtain rfl := hconcludes.succeeds hsuccess huse
      have hzero : code = 0 := congrArg (·.ending.exitCode) hreport
      exact ⟨⟨fun _ => ⟨hrange, huse⟩, fun _ => hzero⟩, fun h => absurd hrange h,
        fun h => absurd huse h, fun _ => congrArg Report.output hreport, fun h => absurd hzero h,
        hagain⟩
    · obtain ⟨f, hsaid, hcode⟩ := hconcludes.garbled hsuccess huse
      obtain ⟨hexit, hne, houtput⟩ := hfails f hsaid
      exact ⟨⟨fun h => absurd h hne, fun h => absurd h.2 huse⟩, fun h => absurd hrange h,
        fun _ => ⟨Command.code_of_not_canUse huse, hexit.trans hcode⟩, fun h => absurd h hne,
        fun _ => houtput, hagain⟩
  · have hrange : ¬ (200 ≤ s.code ∧ s.code < 300) := fun h => hsuccess (isSuccess_iff.2 h)
    obtain ⟨f, hsaid, hcode⟩ := hconcludes.refused (Bool.eq_false_iff.2 hsuccess)
    obtain ⟨hexit, hne, houtput⟩ := hfails f hsaid
    refine ⟨⟨fun h => absurd h hne, fun h => absurd h.1 hrange⟩, fun _ => hexit.trans hcode,
      fun h => ?_, fun h => absurd h hne, fun _ => houtput, hagain⟩
    have h200 := Command.code_of_not_canUse h
    omega

/-- The words that ask for the credentials of a device. -/
def askingHere : List String := ["credentials", "get", "4711", "-t", "T"]

/-- An object as a body. -/
def object : List UInt8 := [0x7B, 0x7D]

/-- A body with one key is used when its status is 200. One that is no array of credentials is
noticed then, and does not matter when the status is another success; and one that stalls is no
answer in time. -/
theorem run_exitCode_of_reply_office :
    let asked (reply : Reply) := (run office askingHere ⟨[reply], []⟩).1
    (asked (.response 200 [] (Text.bytes Credential.keyedText))).ending.exitCode = 0 ∧
    (asked (.response 206 [] object)).ending.exitCode = 0 ∧
    (asked (.response 200 [] object)).ending.exitCode = 7 ∧
    (asked (.response 200 [] object)).output = "" ∧
    (asked (.stalled 200 [])).ending.exitCode = 8 ∧
    (asked (.response 403 [] object)).ending.exitCode = 3 := by
  intro asked
  have hread : Invocation.read office.env askingHere =
      .ok ⟨{}, .getCredentials "4711" (some "T")⟩ := by decide +kernel
  have hsent : ∀ reply ∈ [Reply.response 200 [] (Text.bytes Credential.keyedText),
      .response 206 [] object, .response 200 [] object, .stalled 200 [], .response 403 [] object],
      (run office askingHere ⟨[reply], []⟩).2.sent ≠ [] := by decide +kernel
  have hkeyed := run_exitCode_of_reply (s := .ok) hread
    (hsent (.response 200 [] (Text.bytes Credential.keyedText)) (by simp)) rfl rfl
  have hpartial := run_exitCode_of_reply (s := ⟨206, by decide⟩) hread
    (hsent (.response 206 [] object) (by simp)) rfl rfl
  have hobject := run_exitCode_of_reply (s := .ok) hread
    (hsent (.response 200 [] object) (by simp)) rfl rfl
  have hstalled := run_exitCode_of_reply (s := .ok) hread
    (hsent (.stalled 200 []) (by simp)) rfl rfl
  have hforbidden := run_exitCode_of_reply (s := ⟨403, by decide⟩) hread
    (hsent (.response 403 [] object) (by simp)) rfl rfl
  have huse : Command.CanUse .ok (.response 200 [] (Text.bytes Credential.keyedText))
      (.getCredentials "4711" (some "T")) := fun _ => ⟨[Credential.keyed], rfl⟩
  have hno : ¬ Command.CanUse .ok (.response 200 [] object)
      (.getCredentials "4711" (some "T")) := by
    intro huse
    obtain ⟨cs, hcs⟩ := huse rfl
    cases hcs
  have hlate : ¬ Command.CanUse .ok (.stalled 200 []) (.getCredentials "4711" (some "T")) := by
    intro huse
    obtain ⟨cs, hcs⟩ := huse rfl
    cases hcs
  -- Nothing is printed beside an error, whichever it is.
  have hseven := (hobject.2.2.1 hno).2
  refine ⟨hkeyed.1.2 ⟨by decide, huse⟩, hpartial.1.2 ⟨by decide, fun h => by cases h⟩, hseven, ?_,
    (hstalled.2.2.1 hlate).2, hforbidden.2.1 (by decide)⟩
  exact hobject.2.2.2.2.1 (hseven ▸ by decide)

end CommandLine

end DeviceRegistry
