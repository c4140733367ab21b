import DeviceRegistry.Proofs.Client.Headers
import DeviceRegistry.Proofs.Client.Proxy

/-!
# `DeviceRegistry.Proofs.Client.HandBack`: versions that are asserted again

A client hands out a version only when all characters of it can be shown, and a header can carry
more than that. So a version that was handed out never keeps a request from being sent: an update
that asserts it comes to the same as one that asserts none, but for one header. `Asserts` says so of
the two wires that are left. Main statements:

* `update_asserts`, `handle_asserts`: updates by a client and by an endpoint in front of it.
* `HandsOut.isVisible`: the versions that a client hands out.
* `update_tellsVersions`: what becomes of every version that a client is given.
-/

set_option autoImplicit false

namespace DeviceRegistry.Client

open DeviceRegistry.Management (Endpoint EndpointConfig Request Response Answer Call Outcome
  Version)
open DeviceRegistry.Management.Endpoint (TellsRead TellsUpdate)

variable {c : Client} {url : Url} {wire : Wire} {reply : Reply} {rest : List Reply} {t d : String}
  {cs : List Credential} {v : Version} {config : EndpointConfig} {r : Request}

/-! ### Asserting a version -/

/-- A request without the version that it asserts. -/
def Sent.withoutVersion (q : Sent) : Sent :=
  { q with headers := q.headers.filter fun h => h.1 ≠ "if-match" }

/-- What is left of a wire by an update that asserts no version, and by the same update that asserts
one. Either nothing is sent by both, or one request by each; they are the same but for the header
that says the version. -/
inductive Asserts (v : Version) (wire : Wire) : Wire → Wire → Prop
  | unsent : Asserts v wire wire wire
  | sent {reply : Reply} {rest : List Reply} {q q' : Sent} (replies : wire.replies = reply :: rest)
    (plain : q.values "if-match" = []) (asserted : q'.values "if-match" = [v])
    (same : q'.withoutVersion = q.withoutVersion) :
    Asserts v wire ⟨rest, wire.sent ++ [q]⟩ ⟨rest, wire.sent ++ [q']⟩

/-- Requests for the same update are the same but for the version, as a version adds one header and
changes nothing else. -/
theorem withoutVersion_requestOf (c : Client) (url : Url) (t d : String) (cs : List Credential)
    (v v' : Option Version) :
    (c.requestOf url (.update t d cs v)).withoutVersion =
      (c.requestOf url (.update t d cs v')).withoutVersion := by
  have hheaders : ∀ v : Option Version, (updateHeaders v).filter (fun h => h.1 ≠ "if-match") =
      [("content-type", "application/json")] := by
    intro v
    cases v <;> simp [updateHeaders]
  unfold Sent.withoutVersion requestOf requestTo
  simp only [Call.headers, Call.method, Call.content, List.filter_append, hheaders]

/-- A version that a header can carry keeps no request from being sent: it is the only part of an
update with a version that could have been refused. -/
theorem Reaches.asserting (h : c.Reaches (.update t d cs none) url) (hv : ¬ IsForbidden v) :
    c.Reaches (.update t d cs (some v)) url where
  address := h.address
  version v' hv' := by
    obtain rfl : v = v' := Option.some.inj hv'
    simpa only [isForbidden_iff, Bool.not_eq_false] using hv
  sendable := h.sendable

/-- A version that a header can carry changes nothing of an update but the header: the result is the
same, and so is what is left on the wire up to that header. -/
theorem update_asserts (c : Client) (t d : String) (cs : List Credential) (wire : Wire)
    (hv : ¬ IsForbidden v) :
    (c.update t d cs (some v) wire).1 = (c.update t d cs none wire).1 ∧
      Asserts v wire (c.update t d cs none wire).2 (c.update t d cs (some v) wire).2 := by
  -- A call with a version gets as far as one without it: to the address, to the connection, to the
  -- answer. At whichever of these it ends, the outcomes are compared.
  cases hurl : c.credentialsUrl t d with
  | error err =>
    rw [update_eq_of_error hurl, update_eq_of_error hurl]
    exact ⟨rfl, .unsent⟩
  | ok url =>
    by_cases hsendable : isSendable (bareUrl url) = true
    · have hplain : c.Reaches (.update t d cs none) url := ⟨hurl, nofun, hsendable⟩
      have hasserted := hplain.asserting hv
      cases hreply : wire.replies with
      | nil =>
        have hsaid : (c.update t d cs none wire).1 = _ := fails_of_refused hplain hreply
        have hsaid' : (c.update t d cs (some v) wire).1 = _ := fails_of_refused hasserted hreply
        have hleft (v : Option Version) : (c.update t d cs v wire).2 = wire :=
          (after_of_refused hreply : c.after wire (.update t d cs v) = wire)
        rw [hsaid, hsaid', hleft, hleft]
        exact ⟨rfl, .unsent⟩
      | cons reply rest =>
        have hleft : (c.update t d cs none wire).2 = _ := after_of_reply hplain hreply
        have hleft' : (c.update t d cs (some v) wire).2 = _ := after_of_reply hasserted hreply
        rw [update_of_reply hplain hreply, update_of_reply hasserted hreply, hleft, hleft']
        exact ⟨rfl, .sent hreply (values_ifMatch c url _) (values_ifMatch c url _)
          (withoutVersion_requestOf c url t d cs (some v) none)⟩
    · have hno : isSendable (bareUrl url) = false := Bool.eq_false_iff.2 hsendable
      have hcarries : isHeaderValue v = true := by
        simpa only [isForbidden_iff, Bool.not_eq_false] using hv
      have hheaders (v : Option Version) (h : ∀ v', v = some v' → isHeaderValue v' = true) :
          ∀ h ∈ updateHeaders v, isHeaderValue h.2 = true :=
        (forall_mem_headers_iff.2 h : ∀ h ∈ (Call.update t d cs v).headers, _)
      rw [update_eq hurl, update_eq hurl, send_unsendable (hheaders none nofun) hno,
        send_unsendable (hheaders (some v) fun v' hv' => Option.some.inj hv' ▸ hcarries) hno]
      exact ⟨rfl, .unsent⟩

/-- An endpoint refuses an update whatever version it asserts, or hands it on with the version and
answers by what its service says. The version is never looked at on the way. -/
theorem endpoint_update_cases {σ : Type} (e : Endpoint σ) (tenantId deviceId : Option String)
    (body : List UInt8) :
    (∃ answer, ∀ v s, e.update tenantId deviceId body v s = (answer, s)) ∨
      ∃ t d cs, ∃ answer : Except ServiceError (Outcome Unit) → Answer, ∀ v s,
        e.update tenantId deviceId body v s =
          (answer (e.service.update t d cs v s).1, (e.service.update t d cs v s).2) := by
  unfold Endpoint.update
  cases Endpoint.checkIds tenantId deviceId with
  | error err => exact .inl ⟨_, fun _ _ => rfl⟩
  | ok ids =>
    dsimp only
    cases Endpoint.itemsOf e.config.maxPayloadSize.toNat body with
    | error err => exact .inl ⟨_, fun _ _ => rfl⟩
    | ok vs =>
      dsimp only
      cases Credential.decodeAll vs with
      | error err => exact .inl ⟨_, fun _ _ => rfl⟩
      | ok cs => exact .inr ⟨_, _, _, _, fun _ _ => rfl⟩

/-- A version changes nothing but the header for an endpoint in front of a client either, and the
answer is the same. The endpoint's part is `endpoint_update_cases`, the client's
`update_asserts`. -/
theorem handle_asserts (c : Client) (config : EndpointConfig) (wire : Wire)
    (hput : r.method = "PUT") (hv : ¬ IsForbidden v) :
    let e : Endpoint Wire := ⟨c.service, config⟩
    let plain := e.handle { r with ifMatch := none } wire
    let asserted := e.handle { r with ifMatch := some v } wire
    asserted.1 = plain.1 ∧ Asserts v wire plain.2 asserted.2 := by
  intro e
  have hhandle (v : Option Version) : e.handle { r with ifMatch := v } =
      e.update r.tenantId r.deviceId r.body v :=
    Endpoint.handle_put (r := { r with ifMatch := v }) hput
  rw [hhandle, hhandle]
  rcases endpoint_update_cases e r.tenantId r.deviceId r.body with
    ⟨answer, hupdate⟩ | ⟨t, d, cs, answer, hupdate⟩
  · rw [hupdate, hupdate]
    exact ⟨rfl, .unsent⟩
  · obtain ⟨hsaid, hleft⟩ := update_asserts c t d cs wire hv
    rw [hupdate, hupdate]
    exact ⟨congrArg (fun said => answer (said.mapError Error.toServiceError)) hsaid, hleft⟩

/-- An update that sends a request without a version sends one with it, and that one asserts the
version and no other. -/
theorem Asserts.exists_sent {plain asserted : Wire} (h : Asserts v wire plain asserted)
    (hplain : plain ≠ wire) : ∃ reply rest q, wire.replies = reply :: rest ∧
      asserted = ⟨rest, wire.sent ++ [q]⟩ ∧ q.values "if-match" = [v] := by
  cases h with
  | unsent => exact absurd rfl hplain
  | sent hreply _ hasserted _ => exact ⟨_, _, _, hreply, rfl, hasserted⟩

/-! ### Every version that a client is given -/

/-- What becomes of the version that a client is given for an update. -/
structure TellsVersions (c : Client) (t d : String) (cs : List Credential) (wire : Wire) :
    Prop where
  /-- Without one, a request has no header for it. -/
  plain : ∀ q rest, (c.update t d cs none wire).2 = ⟨rest, wire.sent ++ [q]⟩ →
    q.values "if-match" = []
  /-- One that a header can carry goes out in the one header for it. -/
  carried : ∀ v url reply rest, ¬ IsForbidden v → c.Reaches (.update t d cs none) url →
    wire.replies = reply :: rest →
      ∃ q, (c.update t d cs (some v) wire).2 = ⟨rest, wire.sent ++ [q]⟩ ∧
        q.values "if-match" = [v]
  /-- With any other, nothing is sent, and that is the error, if there is a URL for the device. -/
  forbidden : ∀ v, IsForbidden v → (c.update t d cs (some v) wire).2 = wire ∧
    ∀ url, c.credentialsUrl t d = .ok url →
      (c.update t d cs (some v) wire).1 = .error (.transport .header)

/-- All three cases hold of every update: without a version no header, with one that can be carried
the one header, and with any other no request at all. -/
theorem update_tellsVersions (c : Client) (t d : String) (cs : List Credential) (wire : Wire) :
    c.TellsVersions t d cs wire where
  plain q rest hleft := by
    rcases c.after_cases (.update t d cs none) wire with
      hafter | ⟨url, reply, rest', -, -, hafter⟩
    -- Nothing was sent, so there is no request to speak of.
    · have hsent := congrArg Wire.sent (hleft.symm.trans hafter)
      exact absurd hsent (by simp)
    · have hsent := congrArg Wire.sent (hleft.symm.trans hafter)
      rw [(List.cons.inj (List.append_cancel_left hsent)).1]
      exact values_ifMatch c url _
  carried v url reply rest hv hreaches hreply :=
    ⟨_, after_of_reply (hreaches.asserting hv) hreply, values_ifMatch c url _⟩
  forbidden v hv := by
    cases hurl : c.credentialsUrl t d with
    | error err =>
      rw [update_eq_of_error hurl]
      exact ⟨rfl, nofun⟩
    | ok url =>
      have hcall : c.Fails wire (.update t d cs (some v)) (.transport .header) ∧
          c.after wire (.update t d cs (some v)) = wire :=
        fails_of_forbidden wire hurl rfl hv
      exact ⟨hcall.2, fun _ _ => hcall.1⟩

/-! ### Versions that are handed out -/

/-- A client hands out a version: with what it has read, with what came of an update, or with the
response of an endpoint in front of it. -/
inductive HandsOut (v : Version) : Prop
  | read {c : Client} {t d : String} {wire : Wire} {o : Outcome (List Credential)}
    (said : (c.read t d wire).1 = .ok o) (version : o.version = some v)
  | update {c : Client} {t d : String} {cs : List Credential} {asserted : Option Version}
    {wire : Wire} {o : Outcome Unit} (said : (c.update t d cs asserted wire).1 = .ok o)
    (version : o.version = some v)
  | endpoint {c : Client} {config : EndpointConfig} {r : Request} {wire : Wire}
    (etag : ((⟨c.service, config⟩ : Endpoint Wire).handle r wire).1.response.etag = some v)

/-- The version of what was read has passed the test for versions of responses, whatever the status
of the response was. -/
theorem isVisible_of_read {o : Outcome (List Credential)} (h : (c.read t d wire).1 = .ok o)
    (hv : o.version = some v) : IsVisible v := by
  cases hurl : c.credentialsUrl t d with
  | error err =>
    rw [read_eq_of_error hurl] at h
    cases h
  | ok url =>
    rw [read_eq hurl] at h
    obtain ⟨received, -, hreceived⟩ := except_bind_eq_ok.1 h
    -- Whatever the status and the body are, the version is that of the headers.
    have hversion : o.version = versionOf received.headers := by
      unfold outcomeOfRead at hreceived
      dsimp only at hreceived
      split at hreceived
      · cases hreceived
        rfl
      · split at hreceived
        · cases hreceived
        · split at hreceived
          · cases hreceived
            rfl
          · cases hreceived
    exact (versionOf_eq_some_iff.1 (hversion ▸ hv)).2

/-- The version of an update that was answered has passed the same test, as it is taken from the
headers of the response in the same way. -/
theorem isVisible_of_update {asserted : Option Version} {o : Outcome Unit}
    (h : (c.update t d cs asserted wire).1 = .ok o) (hv : o.version = some v) : IsVisible v := by
  cases hurl : c.credentialsUrl t d with
  | error err =>
    rw [update_eq_of_error hurl] at h
    cases h
  | ok url =>
    rw [update_eq hurl] at h
    obtain ⟨received, -, rfl⟩ := except_map_eq_ok.1 h
    exact (versionOf_eq_some_iff.1 hv).2

/-- A response to reading has no version but that of the outcome: an error is told without one, and
so is every status other than 200. -/
theorem version_of_tellsRead {said : Except ServiceError (Outcome (List Credential))}
    {response : Response} (h : TellsRead said response) (hv : response.etag = some v) :
    ∃ o, said = .ok o ∧ o.version = some v := by
  have hnone : response.etag ≠ none := by simp [hv]
  cases said with
  | error err => exact absurd h.2.2 hnone
  | ok o =>
    unfold TellsRead at h
    dsimp only at h
    split at h
    · obtain ⟨-, h⟩ := h
      split at h
      · exact ⟨o, rfl, h.2 ▸ hv⟩
      · exact absurd h.2 hnone
    · exact absurd h.2.2 hnone

/-- A response to an update has no version but that of the outcome, as an error is told without
one. -/
theorem version_of_tellsUpdate {said : Except ServiceError (Outcome Unit)} {response : Response}
    (h : TellsUpdate said response) (hv : response.etag = some v) :
    ∃ o, said = .ok o ∧ o.version = some v := by
  have hnone : response.etag ≠ none := by simp [hv]
  cases said with
  | error err => exact absurd h.2.2 hnone
  | ok o =>
    unfold TellsUpdate at h
    dsimp only at h
    split at h
    · exact ⟨o, rfl, h.2.2 ▸ hv⟩
    · exact absurd h.2.2 hnone

/-- The version of a response comes from the client: of the ways in which an endpoint can answer,
only those that tell an outcome of its service have a version. -/
theorem isVisible_of_handle
    (hv : ((⟨c.service, config⟩ : Endpoint Wire).handle r wire).1.response.etag = some v) :
    IsVisible v := by
  let e : Endpoint Wire := ⟨c.service, config⟩
  have hv : (e.handle r wire).1.response.etag = some v := hv
  -- Whatever is answered without asking the service has no version at all.
  have hnone {response : Response} (h : (e.handle r wire).1.response = response) :
      response.etag ≠ none := by
    rw [← h, hv]
    nofun
  -- Only an answer of the service can have a version: one to a call with valid identifiers and, for
  -- an update, with a body that decodes.
  by_cases hmethod : r.method = "GET" ∨ r.method = "PUT"
  · cases hids : Endpoint.checkIds r.tenantId r.deviceId with
    | error err =>
      obtain ⟨spans, hhandle⟩ := Endpoint.handle_invalid (e := e) (s := wire) hmethod hids
      exact absurd rfl (hnone (congrArg (·.1.response) hhandle))
    | ok ids =>
      rcases hmethod with hget | hput
      · obtain ⟨response, spans, hhandle, htells⟩ :=
          Endpoint.handle_read (e := e) (s := wire) hget hids
        rw [hhandle] at hv
        obtain ⟨o, hsaid, hversion⟩ := version_of_tellsRead htells hv
        exact isVisible_of_read (except_mapError_eq_ok.1 hsaid) hversion
      · by_cases hbody : ∃ cs, r.body.length ≤ e.config.maxPayloadSize.toNat ∧
            Credential.decodeBody r.body = .ok cs
        · obtain ⟨cs, hbody⟩ := hbody
          obtain ⟨response, spans, hhandle, htells⟩ :=
            Endpoint.handle_update (e := e) (s := wire) hput hids hbody
          rw [hhandle] at hv
          obtain ⟨o, hsaid, hversion⟩ := version_of_tellsUpdate htells hv
          exact isVisible_of_update (except_mapError_eq_ok.1 hsaid) hversion
        · obtain ⟨response, spans, hhandle, hetag, -⟩ :=
            Endpoint.handle_refused (e := e) (s := wire) hput hids hbody
          exact absurd hetag (hnone (congrArg (·.1.response) hhandle))
  · have hhandle := Endpoint.handle_unknown (e := e) (s := wire) (fun h => hmethod (.inl h))
      (fun h => hmethod (.inr h))
    exact absurd rfl (hnone (congrArg (·.1.response) hhandle))

/-- All characters of a version that is handed out can be shown, whichever of the three layers
handed it out. -/
theorem HandsOut.isVisible (h : HandsOut v) : IsVisible v := by
  cases h with
  | read hsaid hversion => exact isVisible_of_read hsaid hversion
  | update hsaid hversion => exact isVisible_of_update hsaid hversion
  | endpoint hetag => exact isVisible_of_handle hetag

/-- What can be shown can be carried by a header. Together with `HandsOut.isVisible` this is why a
version that was handed out can always be asserted again. -/
theorem not_isForbidden_of_isVisible (h : IsVisible v) : ¬ IsForbidden v := by
  rintro ⟨ch, hmem, htab, hcontrol⟩
  rcases h ch hmem with rfl | ⟨hspace, htilde⟩
  · exact htab rfl
  · rcases hcontrol with hlow | rfl
    · exact absurd hspace (Nat.not_le.2 hlow)
    · revert htilde
      decide

end DeviceRegistry.Client
