import DeviceRegistry.Proofs.Client.Error
import DeviceRegistry.Proofs.Client.Exchange
import DeviceRegistry.Proofs.Management.Handle

/-!
# `DeviceRegistry.Proofs.Client.Proxy`: an endpoint in front of a client

An endpoint whose service is a client hands a request on to a registry and its answer back. The
status and the version of the answer pass through both; the credentials are decoded by the client
and encoded by the endpoint. When there is no answer, or none that can be decoded, the response says
so by a status of its own. Main statements:

* `handsOn_iff`: the requests that an endpoint hands on, and the calls that they become.
* `watched_update_of_reply`, `watched_read_of_other`, `watched_read_of_decoded`: what passes
  through.
* `watched_tellsFailure`: an error of the client is told by its status.
* `endpoint_isTransparent`: all that can come of a request that is handed on.
-/

set_option autoImplicit false

namespace DeviceRegistry.Client

open DeviceRegistry.Json (Value Decoder)
open DeviceRegistry.Management (Endpoint EndpointConfig Request Response Call Outcome Version)
open DeviceRegistry.Management.Endpoint (IsId TellsRead TellsUpdate TellsFailure)

variable {c : Client} {call : Call} {url : Url} {wire : Wire} {reply : Reply} {rest : List Reply}
  {r : Request} {e : Endpoint Wire} {t d : String} {cs : List Credential} {v : Option Version}

/-! ### Handing on -/

/-- A request that an endpoint hands on as a call. It names the device; a body to replace by is not
too long and can be decoded. -/
inductive HandsOn (limit : Nat) (r : Request) : Call → Prop
  | read {t d : String} (method : r.method = "GET") (tenant : r.tenantId = some t ∧ IsId t)
    (device : r.deviceId = some d ∧ IsId d) : HandsOn limit r (.read t d)
  | update {t d : String} {cs : List Credential} (method : r.method = "PUT")
    (tenant : r.tenantId = some t ∧ IsId t) (device : r.deviceId = some d ∧ IsId d)
    (length : r.body.length ≤ limit) (decodes : Credential.decodeBody r.body = .ok cs) :
    HandsOn limit r (.update t d cs r.ifMatch)

/-- The calls that an endpoint makes are those that requests are handed on as. It is what ties the
conditions of `HandsOn` to what an endpoint does. -/
theorem handsOn_iff :
    HandsOn e.config.maxPayloadSize.toNat r call ↔ call ∈ (e.watched r wire).calls := by
  -- A call is handed on for a request of its own method, with what the request says.
  cases call with
  | read t d =>
    rw [Endpoint.mem_calls_read_iff]
    constructor
    · rintro ⟨hmethod, htenant, hdevice⟩
      exact ⟨hmethod, htenant, hdevice⟩
    · rintro ⟨hmethod, htenant, hdevice⟩
      exact .read hmethod htenant hdevice
  | update t d cs v =>
    rw [Endpoint.mem_calls_update_iff]
    constructor
    · intro h
      cases h with
      | update hmethod htenant hdevice hlength hdecodes =>
        exact ⟨hmethod, htenant, hdevice, rfl, hlength, hdecodes⟩
    · rintro ⟨hmethod, htenant, hdevice, rfl, hlength, hdecodes⟩
      exact .update hmethod htenant hdevice hlength hdecodes

/-- A request that reads is handed on as a call that reads, for the tenant and the device that it
names. -/
theorem HandsOn.of_read {limit : Nat} {t d : String} (h : HandsOn limit (.read t d) call) :
    call = .read t d ∧ IsId t ∧ IsId d := by
  cases h with
  | read hmethod htenant hdevice =>
    obtain ⟨⟨⟩, ht⟩ := htenant
    obtain ⟨⟨⟩, hd⟩ := hdevice
    exact ⟨rfl, ht, hd⟩
  | update hmethod => exact absurd hmethod (by simp [Request.read, Management.readMethod])

/-- A request that replaces is handed on with the credentials of its body, which is not too long and
can be decoded. -/
theorem HandsOn.of_update {limit : Nat} {t d : String} {body : List UInt8}
    {v : Option Version} (h : HandsOn limit (.update t d body v) call) :
    ∃ cs, call = .update t d cs v ∧ IsId t ∧ IsId d ∧ body.length ≤ limit ∧
      Credential.decodeBody body = .ok cs := by
  cases h with
  | read hmethod => exact absurd hmethod (by simp [Request.update, Management.updateMethod])
  | update hmethod htenant hdevice hlength hdecodes =>
    obtain ⟨⟨⟩, ht⟩ := htenant
    obtain ⟨⟨⟩, hd⟩ := hdevice
    exact ⟨_, rfl, ht, hd, hlength, hdecodes⟩

/-- What a read that is handed on comes to is what the client makes of it: the wire is the client's,
and the response tells the client's result as a failure or an outcome of the service. -/
theorem watched_read (wire : Wire) (hservice : e.service = c.service)
    (h : HandsOn e.config.maxPayloadSize.toNat r (.read t d)) :
    (e.watched r wire).state = c.after wire (.read t d) ∧
      TellsRead ((c.read t d wire).1.mapError Error.toServiceError)
        (e.watched r wire).response := by
  cases h with
  | read hmethod htenant hdevice =>
    have hids := Endpoint.checkIds_eq_ok htenant hdevice
    obtain ⟨-, hstate, htells⟩ := Endpoint.watched_read (e := e) (s := wire) hmethod hids
    rw [hservice] at hstate htells
    exact ⟨hstate, htells⟩

/-- What an update that is handed on comes to is what the client makes of it, in the same way; here
the call has the credentials that the body was decoded to. -/
theorem watched_update (wire : Wire) (hservice : e.service = c.service)
    (h : HandsOn e.config.maxPayloadSize.toNat r (.update t d cs v)) :
    (e.watched r wire).state = c.after wire (.update t d cs v) ∧
      TellsUpdate ((c.update t d cs v wire).1.mapError Error.toServiceError)
        (e.watched r wire).response := by
  cases h with
  | update hmethod htenant hdevice hlength hdecodes =>
    have hids := Endpoint.checkIds_eq_ok htenant hdevice
    obtain ⟨-, hstate, htells⟩ :=
      Endpoint.watched_update (e := e) (s := wire) hmethod hids ⟨hlength, hdecodes⟩
    rw [hservice] at hstate htells
    exact ⟨hstate, htells⟩

/-- An endpoint leaves on the wire what the call does, as checking a request and telling an outcome
send nothing. -/
theorem watched_state (hservice : e.service = c.service)
    (h : HandsOn e.config.maxPayloadSize.toNat r call) :
    (e.watched r wire).state = c.after wire call := by
  cases call with
  | read t d => exact (watched_read wire hservice h).1
  | update t d cs v => exact (watched_update wire hservice h).1

/-- An endpoint in front of a client tells the error of a call that fails, by the status and the
text of the failure that the error turns into. -/
theorem watched_tellsFailure {err : Error} (hservice : e.service = c.service)
    (h : HandsOn e.config.maxPayloadSize.toNat r call) (hfails : c.Fails wire call err) :
    TellsFailure err.toServiceError.code err.toServiceError.text (e.watched r wire).response := by
  cases call with
  | read t d =>
    have htells := (watched_read wire hservice h).2
    rw [show (c.read t d wire).1 = .error err from hfails] at htells
    exact htells
  | update t d cs v =>
    have htells := (watched_update wire hservice h).2
    rw [show (c.update t d cs v wire).1 = .error err from hfails] at htells
    exact htells

/-! ### What passes through -/

/-- The status and the headers that a response starts with. -/
def Reply.opening? : Reply → Option (Nat × List (String × String))
  | .response status headers _ | .cut status headers | .stalled status headers =>
    some (status, headers)
  | .closed | .silence => none

/-- A response that has started is received, whatever becomes of its body, so its status and its
headers can be relied on. -/
theorem Reply.received_of_opening (url : Url) (seconds : Nat) {status : Nat}
    {headers : List (String × String)} (h : reply.opening? = some (status, headers)) :
    ∃ body, reply.received url seconds = .ok ⟨status, headers, body⟩ := by
  cases reply with
  | response _ _ _ | cut _ _ | stalled _ _ =>
    cases h
    exact ⟨_, rfl⟩
  | closed | silence => cases h

section
variable {s : Status} {headers : List (String × String)} {response : Response}

/-- Three equal parts make two equal responses. It is how what `TellsRead` and `TellsUpdate` say
about the parts becomes an equation. -/
theorem response_eq {etag : Option Version} {body : Management.Body}
    (hcode : response.status.code = s.code) (hbody : response.body = body)
    (hetag : response.etag = etag) :
    response = { status := s, etag := etag, body := body } := by
  obtain ⟨⟨code, hrange⟩, etag', body'⟩ := response
  cases s
  cases hcode
  cases hbody
  cases hetag
  rfl

/-- The code of a status is in the range that an endpoint tells as it is, so the check of outcomes
from a service does not get in the way here. -/
theorem Status.inRange (s : Status) : 100 ≤ s.code ∧ s.code ≤ 999 :=
  ⟨s.three_digits.1, Nat.le_of_lt_succ s.code_lt⟩

/-- A status of three digits is told as it is, with the version and without a body. -/
theorem eq_of_tellsUpdate {o : Outcome Unit} (h : TellsUpdate (.ok o) response)
    (hs : o.status = s.code) :
    response = { status := s, etag := o.version, body := .empty } := by
  unfold TellsUpdate at h
  dsimp only at h
  rw [hs, if_pos (Status.inRange s)] at h
  obtain ⟨hcode, hbody, hetag⟩ := h
  exact response_eq hcode hbody hetag

/-- An outcome of a read with 200 is told with its version and its credentials, encoded; without
credentials it is an empty array. -/
theorem eq_of_tellsRead_ok {o : Outcome (List Credential)} (h : TellsRead (.ok o) response)
    (hs : o.status = 200) :
    response = { status := .ok, etag := o.version,
                 body := .json (.array (Credential.encodeAll (o.payload.getD []))) } := by
  unfold TellsRead at h
  dsimp only at h
  rw [hs, if_pos (by decide), if_pos rfl] at h
  obtain ⟨hcode, hbody, hetag⟩ := h
  exact response_eq hcode hbody hetag

/-- An outcome of a read with any other status is told by that status alone; a version that came
with it is dropped. -/
theorem eq_of_tellsRead_other {o : Outcome (List Credential)} (h : TellsRead (.ok o) response)
    (hs : o.status = s.code) (h200 : s.code ≠ 200) : response = .ofStatus s := by
  unfold TellsRead at h
  dsimp only at h
  rw [hs, if_pos (Status.inRange s), if_neg h200] at h
  obtain ⟨hcode, hbody, hetag⟩ := h
  exact response_eq hcode hbody hetag

/-- The status and the version of the answer to an update pass through the client and the endpoint,
whatever becomes of its body. -/
theorem watched_update_of_reply (hservice : e.service = c.service)
    (h : HandsOn e.config.maxPayloadSize.toNat r (.update t d cs v))
    (hreaches : c.Reaches (.update t d cs v) url) (hreply : wire.replies = reply :: rest)
    (hopening : reply.opening? = some (s.code, headers)) :
    (e.watched r wire).response = { status := s, etag := versionOf headers, body := .empty } := by
  obtain ⟨body, hreceived⟩ :=
    Reply.received_of_opening (bareUrl url) (c.timeoutMillis / 1000) hopening
  have htells := (watched_update wire hservice h).2
  rw [update_of_reply hreaches hreply, hreceived] at htells
  exact eq_of_tellsUpdate htells rfl

/-- Of the answer to a read, only the status passes through when it is not 200: the client keeps the
version, and the endpoint does not tell it. -/
theorem watched_read_of_other (hservice : e.service = c.service)
    (h : HandsOn e.config.maxPayloadSize.toNat r (.read t d))
    (hreaches : c.Reaches (.read t d) url) (hreply : wire.replies = reply :: rest)
    (hopening : reply.opening? = some (s.code, headers)) (hs : s.code ≠ 200) :
    (e.watched r wire).response = .ofStatus s := by
  obtain ⟨body, hreceived⟩ :=
    Reply.received_of_opening (bareUrl url) (c.timeoutMillis / 1000) hopening
  have htells := (watched_read wire hservice h).2
  have hsaid : (c.read t d wire).1 = .ok ⟨s.code, none, versionOf headers⟩ := by
    rw [read_of_reply hreaches hreply, hreceived]
    exact if_pos hs
  rw [hsaid] at htells
  exact eq_of_tellsRead_other htells rfl hs

/-- The credentials that a client decodes. -/
def decoded (body : List UInt8) : Except Json.Error (List Credential) :=
  (Decoder.list Credential.decoder).ofBytes (Text.bytes (Text.lossy body))

variable {body : List UInt8}

/-- What a client makes of a body of a 200 that has arrived: the credentials, with the version, or
an error that keeps the text. -/
theorem outcomeOfRead_of_ok :
    outcomeOfRead ⟨200, headers, .ok body⟩ = match decoded body with
      | .ok cs => .ok ⟨200, some cs, versionOf headers⟩
      | .error err => .error (.deserialization err.message (Text.lossy body)) := by
  unfold outcomeOfRead
  exact if_neg fun h => h rfl

/-- Of an answer that can be decoded, the version passes through and the credentials are encoded
again, so the body of the response is in normal form whatever the registry wrote. -/
theorem watched_read_of_decoded (hservice : e.service = c.service)
    (h : HandsOn e.config.maxPayloadSize.toNat r (.read t d))
    (hreaches : c.Reaches (.read t d) url)
    (hreply : wire.replies = .response 200 headers body :: rest)
    (hdecoded : decoded body = .ok cs) :
    (e.watched r wire).response =
      { status := .ok, etag := versionOf headers,
        body := .json (.array (Credential.encodeAll cs)) } := by
  have htells := (watched_read wire hservice h).2
  have hsaid : (c.read t d wire).1 = .ok ⟨200, some cs, versionOf headers⟩ := by
    rw [read_of_reply hreaches hreply]
    show outcomeOfRead ⟨200, headers, .ok body⟩ = _
    rw [outcomeOfRead_of_ok, hdecoded]
  rw [hsaid] at htells
  exact eq_of_tellsRead_ok htells rfl

/-! ### What goes wrong -/

/-- A response reports an error: its status, some text and no version. -/
def Reports (code : Nat) (response : Response) : Prop := ∃ text, TellsFailure code text response

/-- An error of the client is reported by its status and some text. `endpoint_isTransparent` only
needs the status. -/
theorem watched_reports {err : Error} (hservice : e.service = c.service)
    (h : HandsOn e.config.maxPayloadSize.toNat r call) (hfails : c.Fails wire call err) :
    Reports err.toServiceError.code (e.watched r wire).response :=
  ⟨_, watched_tellsFailure hservice h hfails⟩

/-- A call fails when its request does, and with the same error: nothing is made of a response that
was not received. -/
theorem fails_of_send {err : Error}
    (hurl : c.credentialsUrl call.tenantId call.deviceId = .ok url)
    (hsend : (c.send call.method url call.headers call.content wire).1 = .error err) :
    c.Fails wire call err := by
  cases call with
  | read t d =>
    have hurl : c.credentialsUrl t d = .ok url := hurl
    have hsend : (c.send "GET" url [] "" wire).1 = .error err := hsend
    show (c.read t d wire).1 = .error err
    rw [read_eq hurl, hsend]
    rfl
  | update t d cs v =>
    have hurl : c.credentialsUrl t d = .ok url := hurl
    -- The body is the same on both sides, and writing it out is not needed here.
    generalize hcontent : (Call.update t d cs v).content = content at hsend
    have hsend : (c.send "PUT" url (updateHeaders v) content wire).1 = .error err := hsend
    show (c.update t d cs v wire).1 = .error err
    rw [update_eq hurl, hcontent]
    dsimp only
    rw [hsend]
    rfl

/-- A call fails when its reply is one of those that no response comes from. -/
theorem fails_of_reply {err : Error} (h : c.Reaches call url)
    (hreply : wire.replies = reply :: rest)
    (hreceived : reply.received (bareUrl url) (c.timeoutMillis / 1000) = .error err) :
    c.Fails wire call err := by
  refine fails_of_send h.address ?_
  rw [send_of_sendable (forall_mem_headers_iff.2 h.version) h.sendable, hreply]
  exact hreceived

/-- A call to a server that cannot be connected to fails with the URL that was tried, without its
user. -/
theorem fails_of_refused (h : c.Reaches call url) (hreply : wire.replies = []) :
    c.Fails wire call (.transport (.refused (bareUrl url))) := by
  refine fails_of_send h.address ?_
  rw [send_of_sendable (forall_mem_headers_iff.2 h.version) h.sendable, hreply]

/-- A text that no header can carry: it has a control character of ASCII other than a tab. -/
def IsForbidden (v : String) : Prop := ∃ ch ∈ v.toList, ch ≠ '\t' ∧ (ch < ' ' ∨ ch = '\x7f')

/-- The texts that no header can carry, by their characters: a control character of ASCII other than
a tab is what sending looks for. -/
theorem isForbidden_iff {v : String} : IsForbidden v ↔ isHeaderValue v = false := by
  have hspace : ∀ ch : Char, ch < ' ' ↔ ¬ 0x20 ≤ ch.toNat := fun ch => Nat.not_le.symm
  have hdelete : ∀ ch : Char, ch = '\x7f' ↔ ch.toNat = 0x7F := fun ch => Char.toNat_inj.symm
  simp [IsForbidden, isHeaderValue, hspace, hdelete, Decidable.imp_iff_not_or]

/-- Reading fails when its answer cannot be used: a body that does not arrive, or one that is no
array of credentials. -/
theorem fails_of_outcome {err : Error} {received : Received} (h : c.Reaches (.read t d) url)
    (hreply : wire.replies = reply :: rest)
    (hreceived : reply.received (bareUrl url) (c.timeoutMillis / 1000) = .ok received)
    (houtcome : outcomeOfRead received = .error err) : c.Fails wire (.read t d) err := by
  show (c.read t d wire).1 = .error err
  rw [read_of_reply h hreply, hreceived]
  exact houtcome

/-- The version that a call asserts is the value of one of its headers, so it is among the values
that are checked before anything is sent. -/
theorem mem_headers_of_asserted {version : String} (h : call.asserted = some version) :
    ("if-match", version) ∈ call.headers := by
  cases call with
  | read t d => cases h
  | update t d cs v =>
    obtain rfl : v = some version := h
    simp [Call.headers, updateHeaders]

/-- A call with a version that no header can carry fails with that, and the server is not asked. -/
theorem fails_of_forbidden (wire : Wire) {version : String}
    (hurl : c.credentialsUrl call.tenantId call.deviceId = .ok url)
    (hversion : call.asserted = some version) (hforbidden : IsForbidden version) :
    c.Fails wire call (.transport .header) ∧ c.after wire call = wire := by
  have hheaders : ∃ h ∈ call.headers, isHeaderValue h.2 = false :=
    ⟨_, mem_headers_of_asserted hversion, isForbidden_iff.1 hforbidden⟩
  have hsend : c.send call.method url call.headers call.content wire =
      (.error (.transport .header), wire) := send_forbidden hheaders
  refine ⟨fails_of_send hurl (congrArg Prod.fst hsend), ?_⟩
  rw [after_eq hurl, hsend]

/-- A call to a URL that no request can be sent to fails with 502. Which fault is named depends on
the version too, as headers are checked first. -/
theorem fails_of_unsendable (wire : Wire)
    (hurl : c.credentialsUrl call.tenantId call.deviceId = .ok url)
    (hsendable : isSendable (bareUrl url) = false) :
    ∃ fault, c.Fails wire call (.transport fault) ∧
      (Error.transport fault).toServiceError.code = 502 := by
  by_cases hheaders : ∀ h ∈ call.headers, isHeaderValue h.2 = true
  · refine ⟨_, fails_of_send hurl (congrArg Prod.fst (send_unsendable hheaders hsendable)), rfl⟩
  · have hforbidden : ∃ h ∈ call.headers, isHeaderValue h.2 = false := by simpa using hheaders
    exact ⟨_, fails_of_send hurl (congrArg Prod.fst (send_forbidden hforbidden)), rfl⟩

/-- The only reason for a device to have no URL is the registry's: its base URL cannot be extended,
and that is what the error names. -/
theorem fails_of_unaddressed (wire : Wire) {err : Error}
    (hurl : c.credentialsUrl call.tenantId call.deviceId = .error err) :
    c.Fails wire call err ∧ err = .invalidBaseUrl c.baseUrl.render := by
  constructor
  · cases call with
    | read t d => exact congrArg Prod.fst (read_eq_of_error hurl)
    | update t d cs v => exact congrArg Prod.fst (update_eq_of_error hurl)
  · unfold credentialsUrl at hurl
    split at hurl
    · cases hurl
    · cases hurl
      rfl

end

/-! ### All that can come of it -/

/-- A response carries the version that headers name: their first entity tag, if all characters of
it can be shown. -/
def PassesVersion (headers : List (String × String)) (etag : Option Version) : Prop :=
  ∀ v, etag = some v ↔ FirstEtag headers v ∧ IsVisible v

/-- The version that is taken from headers is the one that `PassesVersion` asks for, by the
characterisation of `versionOf`. -/
theorem passesVersion_versionOf (headers : List (String × String)) :
    PassesVersion headers (versionOf headers) := fun _ => versionOf_eq_some_iff

/-- What an endpoint in front of a client has to make of a request that it hands on as a call: its
response, and the wire that is left. -/
structure IsTransparent (c : Client) (call : Call) (wire : Wire) (response : Response)
    (left : Wire) : Prop where
  /-- One request is sent to a server that replies. -/
  sends : ∀ url reply rest, c.Reaches call url → wire.replies = reply :: rest →
    left = ⟨rest, wire.sent ++ [c.requestOf url call]⟩
  /-- The status and the version of the answer to an update pass through. -/
  updates : ∀ t d cs v url reply rest s headers, call = .update t d cs v → c.Reaches call url →
    wire.replies = reply :: rest → reply.opening? = some (Status.code s, headers) →
      response.status = s ∧ response.body = .empty ∧ PassesVersion headers response.etag
  /-- Of the answer to a read, only the status passes through when it is not 200. -/
  others : ∀ t d url reply rest s headers, call = .read t d → c.Reaches call url →
    wire.replies = reply :: rest → reply.opening? = some (Status.code s, headers) → s.code ≠ 200 →
      response.status = s ∧ response.body = .empty ∧ response.etag = none
  /-- Credentials that can be decoded are encoded again. -/
  reads : ∀ t d url rest headers body cs, call = .read t d → c.Reaches call url →
    wire.replies = .response 200 headers body :: rest → decoded body = .ok cs →
      response.status = .ok ∧
      response.body = .json (.array (Credential.encodeAll cs)) ∧
      PassesVersion headers response.etag
  /-- A body that is no array of credentials, or ends too early, is the fault of the server. -/
  garbled : ∀ t d url reply rest headers, call = .read t d → c.Reaches call url →
    wire.replies = reply :: rest →
    (∃ body, reply = .response 200 headers body ∧ ¬ ∃ cs, decoded body = .ok cs) ∨
      reply = .cut 200 headers →
      Reports 502 response
  /-- A server that takes too long, be it in the middle of a body that is read, is told as such. -/
  silent : ∀ url reply rest, c.Reaches call url → wire.replies = reply :: rest →
    reply = .silence ∨ (∃ t d headers, call = .read t d ∧ reply = .stalled 200 headers) →
      Reports 504 response
  closed : ∀ url rest, c.Reaches call url → wire.replies = .closed :: rest → Reports 502 response
  /-- A server that cannot be connected to is sent nothing. -/
  refused : ∀ url, c.Reaches call url → wire.replies = [] → Reports 503 response ∧ left = wire
  /-- Nothing is sent with a version that no header can carry. -/
  forbidden : ∀ url v, c.credentialsUrl call.tenantId call.deviceId = .ok url →
    call.asserted = some v → IsForbidden v → Reports 502 response ∧ left = wire
  /-- Nor is anything sent to a URL that no request can be sent to. -/
  unsendable : ∀ url, c.credentialsUrl call.tenantId call.deviceId = .ok url →
    isSendable (bareUrl url) = false → Reports 502 response ∧ left = wire
  /-- A registry that is at no place where devices can be is a fault of this side. -/
  unaddressed : ∀ err, c.credentialsUrl call.tenantId call.deviceId = .error err →
    Reports 500 response ∧ left = wire

/-- An endpoint in front of a client is transparent for every request that it hands on. A read that
is answered by 200 with a body that never ends is one to which no response arrives within the
timeout (504), and not one with a body that cannot be decoded (502): what could be decoded or not
has not been received. -/
theorem endpoint_isTransparent (c : Client) (config : EndpointConfig) (wire : Wire)
    (h : HandsOn config.maxPayloadSize.toNat r call) :
    let out := (⟨c.service, config⟩ : Endpoint Wire).handle r wire
    c.IsTransparent call wire out.1.response out.2 := by
  intro out
  let e : Endpoint Wire := ⟨c.service, config⟩
  have hservice : e.service = c.service := rfl
  have hresponse : (e.watched r wire).response = out.1.response := Endpoint.watched_eq_handle.1
  have hstate : (e.watched r wire).state = out.2 := Endpoint.watched_eq_handle.2
  rw [← hresponse, ← hstate, watched_state (e := e) hservice h]
  -- Every case below but the answers themselves is a failure of the client, reported with its code.
  have hreports : ∀ err, c.Fails wire call err →
      Reports err.toServiceError.code (e.watched r wire).response := by
    intro err hfails
    exact watched_reports (e := e) hservice h hfails
  constructor
  case sends =>
    intro url reply rest hreaches hreply
    exact after_of_reply hreaches hreply
  case updates =>
    rintro t d cs v url reply rest s headers rfl hreaches hreply hopening
    rw [watched_update_of_reply (e := e) hservice h hreaches hreply hopening]
    exact ⟨rfl, rfl, passesVersion_versionOf headers⟩
  case others =>
    rintro t d url reply rest s headers rfl hreaches hreply hopening hs
    rw [watched_read_of_other (e := e) hservice h hreaches hreply hopening hs]
    exact ⟨rfl, rfl, rfl⟩
  case reads =>
    rintro t d url rest headers body cs rfl hreaches hreply hdecoded
    rw [watched_read_of_decoded (e := e) hservice h hreaches hreply hdecoded]
    exact ⟨rfl, rfl, passesVersion_versionOf headers⟩
  -- A body that does not decode, or that breaks off, was still received with its status.
  case garbled =>
    rintro t d url reply rest headers rfl hreaches hreply (⟨body, rfl, hno⟩ | rfl)
    · cases hdecoded : decoded body with
      | ok cs => exact absurd ⟨cs, hdecoded⟩ hno
      | error err =>
        refine hreports (.deserialization err.message (Text.lossy body))
          (fails_of_outcome hreaches hreply rfl ?_)
        rw [outcomeOfRead_of_ok, hdecoded]
    · exact hreports (.transport .cut) (fails_of_outcome hreaches hreply rfl rfl)
  case silent =>
    rintro url reply rest hreaches hreply (rfl | ⟨t, d, headers, rfl, rfl⟩)
    · exact hreports _ (fails_of_reply hreaches hreply rfl)
    · exact hreports (.transport .stalled) (fails_of_outcome hreaches hreply rfl rfl)
  case closed =>
    intro url rest hreaches hreply
    exact hreports _ (fails_of_reply hreaches hreply rfl)
  case refused =>
    intro url hreaches hreply
    exact ⟨hreports _ (fails_of_refused hreaches hreply), after_of_refused hreply⟩
  case forbidden =>
    intro url v hurl hversion hforbidden
    obtain ⟨hfails, hafter⟩ := fails_of_forbidden wire hurl hversion hforbidden
    exact ⟨hreports _ hfails, hafter⟩
  case unsendable =>
    intro url hurl hsendable
    obtain ⟨fault, hfails, hcode⟩ := fails_of_unsendable wire hurl hsendable
    -- There is one address only, so a call that cannot be sent there reaches no server at all.
    have hnot : ∀ url', ¬ c.Reaches call url' := by
      intro url' hreaches
      have hsame : url' = url := Except.ok.inj (hreaches.address.symm.trans hurl)
      rw [← hsame, hreaches.sendable] at hsendable
      cases hsendable
    exact ⟨hcode ▸ hreports _ hfails, after_of_not_reaches hnot⟩
  case unaddressed =>
    intro err hurl
    obtain ⟨hfails, rfl⟩ := fails_of_unaddressed wire hurl
    exact ⟨hreports _ hfails, after_eq_of_error hurl⟩

/-- A client of a registry that an endpoint stands before. -/
def upstream : Client :=
  { baseUrl := { scheme := "http", host := some (.domain "h"), path := .segments [""] } }

/-- A request to replace the credentials of a device by one that holds a key. -/
def keying (version : String) : Request :=
  .update "T" "4711" (Text.bytes Credential.keyedText) (some version)

/-- The key is passed on in either direction, with the first of two entity tags. A conflict goes
through although its body never ends, while credentials that never end are no answer in time; and a
version with a delete character is not sent. -/
theorem endpoint_isTransparent_upstream :
    let handle := (⟨upstream.service, {}⟩ : Endpoint Wire).handle
    let tags := [("ETag", " v1 "), ("etag", "v2")]
    let fetched := handle (.read "T" "4711")
      ⟨[.response 200 tags (Text.bytes Credential.keyedText)], []⟩
    let late := handle (.read "T" "4711") ⟨[.stalled 200 tags], []⟩
    let refused := handle (keying "v1") ⟨[.stalled 412 []], []⟩
    let unsent := handle (keying "v\x7f") ⟨[.response 204 [] []], []⟩
    let keyed := Value.array (Credential.encodeAll [Credential.keyed])
    (fetched.1.response.status = .ok ∧ fetched.1.response.body = .json keyed ∧
      fetched.1.response.etag = some "v1" ∧ fetched.2.replies = []) ∧
    Reports 504 late.1.response ∧
    (refused.1.response.status.code = 412 ∧ refused.1.response.body = .empty ∧
      refused.2.sent.map Sent.body = [keyed.render]) ∧
    (Reports 502 unsent.1.response ∧ unsent.2.sent = []) := by
  intro handle tags fetched late refused unsent keyed
  have hid : ∀ s, s = "T" ∨ s = "4711" → IsId s := by
    rintro s (rfl | rfl) <;> exact Endpoint.idPattern_isMatch_iff.1 rfl
  have htenant : some "T" = some "T" ∧ IsId "T" := ⟨rfl, hid _ (.inl rfl)⟩
  have hdevice : some "4711" = some "4711" ∧ IsId "4711" := ⟨rfl, hid _ (.inr rfl)⟩
  have hread : HandsOn 2048 (.read "T" "4711") (.read "T" "4711") := .read rfl htenant hdevice
  have hlength : (Text.bytes Credential.keyedText).length ≤ 2048 := by decide +kernel
  have hupdate : ∀ v, HandsOn 2048 (keying v) (.update "T" "4711" [Credential.keyed] (some v)) :=
    fun v => .update rfl htenant hdevice hlength Credential.decodeBody_keyedText
  have hreaches : upstream.Reaches (.read "T" "4711") _ := ⟨rfl, by simp [Call.asserted], rfl⟩
  -- An answer with a credential, one whose body stalls, an update that is refused, and a version
  -- that cannot be sent.
  refine ⟨?_, ?_, ?_, ?_⟩
  · have htransparent := endpoint_isTransparent upstream {}
      ⟨[.response 200 tags (Text.bytes Credential.keyedText)], []⟩ hread
    have hdecoded : decoded (Text.bytes Credential.keyedText) = .ok [Credential.keyed] := rfl
    obtain ⟨hstatus, hbody, hetag⟩ :=
      htransparent.reads _ _ _ _ _ _ [Credential.keyed] rfl hreaches rfl hdecoded
    have hfirst : FirstEtag tags "v1" := ⟨[], "ETag", " v1 ", _, rfl, by simp,
      by decide +kernel, by decide +kernel⟩
    have hall : "v1".toList.all isVisible = true := by decide
    have hvisible : IsVisible "v1" := fun ch hch => isVisible_iff.1 (List.all_eq_true.1 hall ch hch)
    have hleft := htransparent.sends _ _ _ hreaches rfl
    exact ⟨hstatus, hbody, (hetag "v1").2 ⟨hfirst, hvisible⟩, congrArg Wire.replies hleft⟩
  · have htransparent := endpoint_isTransparent upstream {} ⟨[.stalled 200 tags], []⟩ hread
    exact htransparent.silent _ _ _ hreaches rfl (.inr ⟨_, _, tags, rfl, rfl⟩)
  · have hreaches : upstream.Reaches (.update "T" "4711" [Credential.keyed] (some "v1")) _ :=
      ⟨rfl, fun v h => by cases h; decide, rfl⟩
    have htransparent := endpoint_isTransparent upstream {} ⟨[.stalled 412 []], []⟩ (hupdate "v1")
    obtain ⟨hstatus, hbody, -⟩ := htransparent.updates _ _ _ _ _ _ _ ⟨412, by decide⟩ [] rfl
      hreaches rfl rfl
    have hleft := htransparent.sends _ _ _ hreaches rfl
    exact ⟨congrArg Status.code hstatus, hbody, congrArg (fun w => w.sent.map Sent.body) hleft⟩
  · have htransparent := endpoint_isTransparent upstream {} ⟨[.response 204 [] []], []⟩
      (hupdate "v\x7f")
    obtain ⟨hreports, hleft⟩ := htransparent.forbidden _ _ rfl rfl
      ⟨'\x7f', by decide, by decide, .inr rfl⟩
    exact ⟨hreports, congrArg Wire.sent hleft⟩

end DeviceRegistry.Client
