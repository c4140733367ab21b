import DeviceRegistry.Proofs.Management.Body

/-!
# `DeviceRegistry.Proofs.Management.Handle`: what an endpoint does with a request

A request is refused without asking the service, or it asks the service once and tells in its
response what the service said. Main statements:

* `handle_unknown`, `handle_invalid`, `handle_read`, `handle_update`, `handle_refused`: the paths of
  a request, with the state that the service is left in.
* `handle_isFaithful`: all paths together, with the calls that are made of the service.
-/

set_option autoImplicit false

namespace DeviceRegistry.Management.Endpoint

variable {σ : Type} {e : Endpoint σ} {r : Request} {s : σ}

/-! ### Identifiers -/

/-- A text of letters, digits and the marks `-`, `_`, `.`, `:` and `=` that is not empty. -/
def IsId (s : String) : Prop :=
  s ≠ "" ∧ ∀ c ∈ s.toList, ('a' ≤ c ∧ c ≤ 'z') ∨ ('A' ≤ c ∧ c ≤ 'Z') ∨ ('0' ≤ c ∧ c ≤ '9') ∨
    c = '-' ∨ c = '_' ∨ c = '.' ∨ c = ':' ∨ c = '='

/-- The pattern of identifiers describes them. The rest of the development speaks of `IsId` and
never of the pattern. -/
theorem idPattern_isMatch_iff {s : String} : idPattern.isMatch s = true ↔ IsId s := by
  simp [Text.Pattern.isMatch, IsId, idPattern, Text.isAlphanumeric, Text.isLower, Text.isUpper,
    Text.isDigit, or_assoc]

/-- An identifier passes when it is there and is one. An empty one is told apart from one that is
not there, but both are refused. -/
theorem checkId_eq_ok_iff {parameter t : String} {id : Option String} :
    checkId parameter id = .ok t ↔ id = some t ∧ IsId t := by
  rw [← idPattern_isMatch_iff]
  cases id with
  | none => simp [checkId]
  | some u =>
    -- The empty text has an error of its own. The pattern does not match it either.
    by_cases hempty : u = ""
    · have hno : idPattern.isMatch "" = false := rfl
      simp only [checkId, if_pos hempty, Option.some.injEq]
      constructor
      · intro h
        cases h
      · rintro ⟨rfl, hmatch⟩
        rw [hempty, hno] at hmatch
        cases hmatch
    · by_cases hmatch : idPattern.isMatch u = true
      · simp [checkId, hempty, hmatch]
        rintro rfl
        exact hmatch
      · simp [checkId, hempty, hmatch]
        rintro rfl
        simpa using hmatch

/-- An identifier that does not pass is blamed by the name of its parameter, whether it is missing
or malformed. So a response tells which of the two it was. -/
theorem checkId_eq_error (parameter : String) {id : Option String}
    (h : ¬ ∃ t, id = some t ∧ IsId t) :
    ∃ reason, checkId parameter id = .error (.invalidParameter parameter reason) := by
  cases id with
  | none => exact ⟨_, rfl⟩
  | some t =>
    unfold checkId
    dsimp only
    split
    · exact ⟨_, rfl⟩
    · split
      · rename_i hmatch
        exact absurd ⟨t, rfl, idPattern_isMatch_iff.1 hmatch⟩ h
      · exact ⟨_, rfl⟩

variable {tenantId deviceId : Option String} {t d : String}

/-- Identifiers that are there and proper ones pass. They are handed on as they are, without a
change. -/
theorem checkIds_eq_ok (ht : tenantId = some t ∧ IsId t) (hd : deviceId = some d ∧ IsId d) :
    checkIds tenantId deviceId = .ok (t, d) := by
  rw [checkIds, checkId_eq_ok_iff.2 ht, except_bind_ok, checkId_eq_ok_iff.2 hd]
  rfl

/-- Identifiers that pass are there and are proper ones. So the service only ever sees proper ones.
-/
theorem isId_of_checkIds (h : checkIds tenantId deviceId = .ok (t, d)) :
    (tenantId = some t ∧ IsId t) ∧ (deviceId = some d ∧ IsId d) := by
  obtain ⟨t', ht, h⟩ := except_bind_eq_ok.1 h
  obtain ⟨d', hd, h⟩ := except_bind_eq_ok.1 h
  cases h
  exact ⟨checkId_eq_ok_iff.1 ht, checkId_eq_ok_iff.1 hd⟩

/-- The tenant is checked first, so it is the one to blame when neither passes. -/
theorem checkIds_tenant (deviceId : Option String) (ht : ¬ ∃ t, tenantId = some t ∧ IsId t) :
    ∃ reason, checkIds tenantId deviceId = .error (.invalidParameter "tenant_id" reason) := by
  obtain ⟨reason, hreason⟩ := checkId_eq_error "tenant_id" ht
  exact ⟨reason, by rw [checkIds, hreason]; rfl⟩

/-- The device is to blame when the tenant passes. The tenant is checked first, so it is to blame
when both are wrong. -/
theorem checkIds_device (ht : ∃ t, tenantId = some t ∧ IsId t)
    (hd : ¬ ∃ d, deviceId = some d ∧ IsId d) :
    ∃ reason, checkIds tenantId deviceId = .error (.invalidParameter "device_id" reason) := by
  obtain ⟨t, ht⟩ := ht
  obtain ⟨reason, hreason⟩ := checkId_eq_error "device_id" hd
  exact ⟨reason, by rw [checkIds, checkId_eq_ok_iff.2 ht, except_bind_ok, hreason]; rfl⟩

/-! ### What responses tell -/

/-- A response tells a failure: its code, its text and no version. -/
def TellsFailure (code : Nat) (text : String) (response : Response) : Prop :=
  response.status.code = code ∧ response.body = .text text ∧ response.etag = none

/-- A response to reading tells what the service said: its failure, or the status of its outcome,
which must be one, and with the status 200 the credentials and their version. -/
def TellsRead : Except ServiceError (Outcome (List Credential)) → Response → Prop
  | .error err, response => TellsFailure err.code err.text response
  | .ok o, response =>
    if 100 ≤ o.status ∧ o.status ≤ 999 then
      response.status.code = o.status ∧
        if o.status = 200 then
          response.body = .json (.array (Credential.encodeAll (o.payload.getD []))) ∧
            response.etag = o.version
        else response.body = .empty ∧ response.etag = none
    else TellsFailure 500 (RegistryError.invalidStatus o.status).message response

/-- A response to replacing tells what the service said: its failure, or the status of its outcome,
which must be one, and the version. -/
def TellsUpdate : Except ServiceError (Outcome Unit) → Response → Prop
  | .error err, response => TellsFailure err.code err.text response
  | .ok o, response =>
    if 100 ≤ o.status ∧ o.status ≤ 999 then
      response.status.code = o.status ∧ response.body = .empty ∧ response.etag = o.version
    else TellsFailure 500 (RegistryError.invalidStatus o.status).message response

/-- A failure of a service is reported with its own code, which every constructor of such failures
has put on one of the two sides. -/
theorem ofService_status_code (err : ServiceError) : err.status.code = err.code := by
  have hcode := err.holds_code
  have hrange : 100 ≤ err.code ∧ err.code < 1000 := by
    cases hside : err.side <;>
      rw [hside] at hcode <;>
      simp only [StatusClass.Holds, StatusClass.bound, StatusClass.least] at hcode <;>
      omega
  rw [ServiceError.status, Status.of?, dif_pos hrange]
  rfl

/-- No error is reported as a success, so that a success tells that the service was asked. -/
theorem isSuccess_status (err : RegistryError) : err.status.isSuccess = false := by
  cases err with
  | service err =>
    have hcode : 400 ≤ err.status.code := by
      have hholds := err.holds_code.1
      rw [ofService_status_code]
      cases hside : err.side <;>
        rw [hside] at hholds <;>
        simp only [StatusClass.least] at hholds <;>
        omega
    have hlarge : ¬ err.status.code < 300 := by omega
    simp [RegistryError.status, Status.isSuccess, hlarge]
  | _ => rfl

/-- The code of an outcome is a status when it has three digits, and is not one otherwise. -/
theorem outcomeStatus_eq (code : Nat) :
    (∃ status, outcomeStatus code = .ok status ∧ status.code = code ∧ 100 ≤ code ∧ code ≤ 999) ∨
      (outcomeStatus code = .error (.invalidStatus code) ∧ ¬ (100 ≤ code ∧ code ≤ 999)) := by
  unfold outcomeStatus Status.of?
  by_cases h : 100 ≤ code ∧ code < 1000
  · rw [dif_pos h]
    exact .inl ⟨⟨code, h⟩, rfl, rfl, h.1, by omega⟩
  · rw [dif_neg h]
    exact .inr ⟨rfl, by omega⟩

/-- There is one status with the code 200. A status is its code with a proof of its bounds, and
nothing else. -/
theorem status_eq_ok {status : Status} (h : status.code = 200) : status = .ok := by
  obtain ⟨code, hcode⟩ := status
  subst h
  rfl

/-- The response to reading tells what the service said. Only the status 200 has a body, with the
credentials, and the version. -/
theorem answerRead_tells (sp : Span) (said : Except ServiceError (Outcome (List Credential))) :
    TellsRead said (answerRead sp said).response := by
  cases said with
  | error err => exact ⟨ofService_status_code err, rfl, rfl⟩
  | ok o =>
    rcases outcomeStatus_eq o.status with ⟨status, hstatus, hcode, hrange⟩ | ⟨hstatus, hno⟩
    · simp only [TellsRead, answerRead, hstatus, if_pos hrange]
      by_cases hok : status = .ok
      · have h200 : o.status = 200 := by rw [← hcode, hok]; rfl
        rw [if_pos hok, if_pos h200, h200]
        exact ⟨rfl, rfl, rfl⟩
      -- Only the status 200 has a body, and it is the one status with that code.
      · have h200 : o.status ≠ 200 := fun he => hok (status_eq_ok (hcode.trans he))
        rw [if_neg hok, if_neg h200]
        exact ⟨hcode, rfl, rfl⟩
    · simp only [TellsRead, answerRead, hstatus, if_neg hno]
      exact ⟨rfl, rfl, rfl⟩

/-- The response to replacing tells what the service said, with the version whatever the status
is. -/
theorem answerUpdate_tells (sp : Span) (said : Except ServiceError (Outcome Unit)) :
    TellsUpdate said (answerUpdate sp said).response := by
  cases said with
  | error err => exact ⟨ofService_status_code err, rfl, rfl⟩
  | ok o =>
    rcases outcomeStatus_eq o.status with ⟨status, hstatus, hcode, hrange⟩ | ⟨hstatus, hno⟩
    · simp only [TellsUpdate, answerUpdate, hstatus, if_pos hrange]
      exact ⟨hcode, rfl, rfl⟩
    · simp only [TellsUpdate, answerUpdate, hstatus, if_neg hno]
      exact ⟨rfl, rfl, rfl⟩

/-- A response to replacing reports a success exactly when the service did. A status that cannot be
carried is reported as 500, and was not a success either. -/
theorem TellsUpdate.isSuccess {o : Outcome Unit} {response : Response}
    (h : TellsUpdate (.ok o) response) : response.status.isSuccess = o.isSuccess := by
  unfold TellsUpdate at h
  dsimp only at h
  unfold Status.isSuccess Outcome.isSuccess
  -- A status that cannot be carried is reported as 500, and is not a success either.
  by_cases hrange : 100 ≤ o.status ∧ o.status ≤ 999
  · rw [if_pos hrange] at h
    rw [h.1]
  · rw [if_neg hrange] at h
    have hfailure : ¬ (200 ≤ o.status ∧ o.status < 300) := by omega
    rw [h.1]
    simpa using hfailure

/-! ### The paths of an operation -/

section

variable {body : List UInt8} {v : Option Version} {err : RegistryError} {vs : List Json.Value}
  {cs : List Credential}

/-- Without proper identifiers nothing is read, and the response is that of the error. -/
theorem read_invalid (hids : checkIds tenantId deviceId = .error err) :
    e.read tenantId deviceId s = (fail (.opened .read tenantId deviceId) err, s) := by
  rw [read, hids]
  rfl

/-- With proper identifiers the service is asked, and the response is made of what it says. -/
theorem read_asks (hids : checkIds tenantId deviceId = .ok (t, d)) :
    e.read tenantId deviceId s =
      (answerRead ((Span.opened .read tenantId deviceId).log (.reading t d))
        (e.service.read t d s).1, (e.service.read t d s).2) := by
  rw [read, hids]
  rfl

/-- Without proper identifiers nothing is replaced, and the response is that of the error. -/
theorem update_invalid (hids : checkIds tenantId deviceId = .error err) :
    e.update tenantId deviceId body v s = (fail (.opened .update tenantId deviceId) err, s) := by
  rw [update, hids]
  rfl

/-- A body without items is refused with the error that says why. -/
theorem update_malformed (hids : checkIds tenantId deviceId = .ok (t, d))
    (hitems : itemsOf e.config.maxPayloadSize.toNat body = .error err) :
    e.update tenantId deviceId body v s = (fail (.opened .update tenantId deviceId) err, s) := by
  rw [update, hids]
  dsimp only
  rw [hitems]
  rfl

/-- Items that are no credentials are refused with a text of their own; the error is only logged. -/
theorem update_undecodable (hids : checkIds tenantId deviceId = .ok (t, d))
    (hitems : itemsOf e.config.maxPayloadSize.toNat body = .ok vs)
    (hdecode : Credential.decodeAll vs = .error err) :
    e.update tenantId deviceId body v s =
      (finish ((Span.opened .update tenantId deviceId).logError err) undecodable, s) := by
  rw [update, hids]
  dsimp only
  rw [hitems]
  dsimp only
  rw [hdecode]
  rfl

/-- With credentials in the body the service is asked, whatever version is asserted, with these
credentials and no others. The span has noted how many there are by then. -/
theorem update_asks (hids : checkIds tenantId deviceId = .ok (t, d))
    (hitems : itemsOf e.config.maxPayloadSize.toNat body = .ok vs)
    (hdecode : Credential.decodeAll vs = .ok cs) :
    e.update tenantId deviceId body v s =
      (answerUpdate ((Span.opened .update tenantId deviceId).log (.updating t d cs.length))
        (e.service.update t d cs v s).1, (e.service.update t d cs v s).2) := by
  rw [update, hids]
  dsimp only
  rw [hitems]
  dsimp only
  rw [hdecode]
  rfl

end

/-! ### The paths of a request -/

/-- A request with the method to read is read. The method is compared as it is written, so lower
case is another one. -/
theorem handle_get (hget : r.method = "GET") : e.handle r = e.read r.tenantId r.deviceId :=
  if_pos hget

/-- A request with the method to replace is replaced, since it is not the one to read. -/
theorem handle_put (hput : r.method = "PUT") :
    e.handle r = e.update r.tenantId r.deviceId r.body r.ifMatch := by
  have hget : r.method ≠ readMethod := by rw [hput]; decide
  exact (if_neg hget).trans (if_pos hput)

/-- A request with another method is refused, and not followed by a span. -/
theorem handle_unknown (hget : r.method ≠ "GET") (hput : r.method ≠ "PUT") :
    e.handle r s = (⟨.ofError (.methodNotAllowed r.method), []⟩, s) :=
  congrFun ((if_neg hget).trans (if_neg hput)) s

/-- A request with identifiers that do not pass is refused, whatever its method and body are. -/
theorem handle_invalid {err : RegistryError} (hmethod : r.method = "GET" ∨ r.method = "PUT")
    (hids : checkIds r.tenantId r.deviceId = .error err) :
    ∃ spans, e.handle r s = (⟨.ofError err, spans⟩, s) := by
  rcases hmethod with hget | hput
  · rw [handle_get hget, read_invalid hids]
    exact ⟨_, rfl⟩
  · rw [handle_put hput, update_invalid hids]
    exact ⟨_, rfl⟩

/-- Reading asks the service once and tells what it said. The state afterwards is the one that the
service has left. -/
theorem handle_read (hget : r.method = "GET") (hids : checkIds r.tenantId r.deviceId = .ok (t, d)) :
    ∃ response spans, e.handle r s = (⟨response, spans⟩, (e.service.read t d s).2) ∧
      TellsRead (e.service.read t d s).1 response := by
  rw [handle_get hget, read_asks hids]
  exact ⟨_, _, rfl, answerRead_tells _ _⟩

/-- Replacing asks the service once, when the body is accepted, and with what the body decodes to.
-/
theorem handle_update {cs : List Credential} (hput : r.method = "PUT")
    (hids : checkIds r.tenantId r.deviceId = .ok (t, d))
    (hbody : r.body.length ≤ e.config.maxPayloadSize.toNat ∧
      Credential.decodeBody r.body = .ok cs) :
    ∃ response spans, e.handle r s = (⟨response, spans⟩, (e.service.update t d cs r.ifMatch s).2) ∧
      TellsUpdate (e.service.update t d cs r.ifMatch s).1 response := by
  obtain ⟨vs, hitems, hdecode⟩ := itemsOf_decodeAll_iff.2 hbody
  rw [handle_put hput, update_asks hids hitems hdecode]
  exact ⟨_, _, rfl, answerUpdate_tells _ _⟩

/-- A body that is not accepted is refused without asking the service. The status tells one that is
too long from one that cannot be decoded. -/
theorem handle_refused (hput : r.method = "PUT")
    (hids : checkIds r.tenantId r.deviceId = .ok (t, d))
    (hbody : ¬ ∃ cs, r.body.length ≤ e.config.maxPayloadSize.toNat ∧
      Credential.decodeBody r.body = .ok cs) :
    ∃ response spans, e.handle r s = (⟨response, spans⟩, s) ∧ response.etag = none ∧
      (e.config.maxPayloadSize.toNat < r.body.length → response.status.code = 413) ∧
      (r.body.length ≤ e.config.maxPayloadSize.toNat → response.status.code = 400) := by
  rw [handle_put hput]
  cases hitems : itemsOf e.config.maxPayloadSize.toNat r.body with
  | error err =>
    obtain ⟨hlong, hshort⟩ := status_of_itemsOf hitems
    rw [update_malformed hids hitems]
    exact ⟨_, _, rfl, rfl, fun h => congrArg Status.code (hlong h),
      fun h => congrArg Status.code (hshort h)⟩
  | ok vs =>
    -- The body is an array and not too long, so an item must be what cannot be decoded.
    have hle := (itemsOf_eq_ok_iff.1 hitems).1
    cases hdecode : Credential.decodeAll vs with
    | error err =>
      rw [update_undecodable hids hitems hdecode]
      exact ⟨_, _, rfl, rfl, fun h => absurd h (Nat.not_lt.2 hle), fun _ => rfl⟩
    | ok cs => exact absurd ⟨cs, itemsOf_decodeAll_iff.1 ⟨vs, hitems, hdecode⟩⟩ hbody

/-! ### What a request comes to -/

/-- What a request comes to: the response, the calls that are made of the service, and the state
that the service is left in. -/
structure Effect (σ : Type) where
  response : Response
  calls : List Call
  state : σ

/-- Serves a request and watches the calls that are made of the service. -/
def watched (e : Endpoint σ) (r : Request) (s : σ) : Effect σ :=
  let out := ({ e with service := e.service.recorded } : Endpoint (σ × List Call)).handle r (s, [])
  ⟨out.1.response, out.2.2, out.2.1⟩

/-- Watching changes nothing else. The two runs make the same choices, as none of them depends on
the state of the service. -/
theorem watched_eq_handle :
    (e.watched r s).response = (e.handle r s).1.response ∧
      (e.watched r s).state = (e.handle r s).2 := by
  -- The two runs make the same choices, as none depends on the state of the service.
  by_cases hget : r.method = "GET"
  · rw [watched, handle_get hget, handle_get hget, read, read]
    cases checkIds r.tenantId r.deviceId with
    | error err => exact ⟨rfl, rfl⟩
    | ok ids => exact ⟨rfl, rfl⟩
  · by_cases hput : r.method = "PUT"
    · rw [watched, handle_put hput, handle_put hput, update, update]
      cases checkIds r.tenantId r.deviceId with
      | error err => exact ⟨rfl, rfl⟩
      | ok ids =>
        dsimp only
        cases itemsOf e.config.maxPayloadSize.toNat r.body with
        | error err => exact ⟨rfl, rfl⟩
        | ok vs =>
          dsimp only
          cases Credential.decodeAll vs with
          | error err => exact ⟨rfl, rfl⟩
          | ok cs => exact ⟨rfl, rfl⟩
    · rw [watched, handle_unknown hget hput, handle_unknown hget hput]
      exact ⟨rfl, rfl⟩

/-- A request with another method makes no call. It is refused before any span is opened, so it is
not recorded either. -/
theorem watched_unknown (hget : r.method ≠ "GET") (hput : r.method ≠ "PUT") :
    e.watched r s = ⟨.ofError (.methodNotAllowed r.method), [], s⟩ := by
  rw [watched, handle_unknown hget hput]

/-- Nor does a request with identifiers that do not pass. The service keeps its state, and the
response is that of the error. -/
theorem watched_invalid {err : RegistryError} (hmethod : r.method = "GET" ∨ r.method = "PUT")
    (hids : checkIds r.tenantId r.deviceId = .error err) :
    e.watched r s = ⟨.ofError err, [], s⟩ := by
  obtain ⟨spans, h⟩ := handle_invalid
    (e := { e with service := e.service.recorded }) (s := (s, [])) hmethod hids
  rw [watched, h]

/-- Reading makes one call, and the response tells what came of it. -/
theorem watched_read (hget : r.method = "GET")
    (hids : checkIds r.tenantId r.deviceId = .ok (t, d)) :
    (e.watched r s).calls = [.read t d] ∧ (e.watched r s).state = (e.service.read t d s).2 ∧
      TellsRead (e.service.read t d s).1 (e.watched r s).response := by
  obtain ⟨response, spans, h, htells⟩ := handle_read
    (e := { e with service := e.service.recorded }) (s := (s, [])) hget hids
  rw [watched, h]
  exact ⟨rfl, rfl, htells⟩

/-- Replacing makes one call when the body is accepted, and the response tells what came of it. -/
theorem watched_update {cs : List Credential} (hput : r.method = "PUT")
    (hids : checkIds r.tenantId r.deviceId = .ok (t, d))
    (hbody : r.body.length ≤ e.config.maxPayloadSize.toNat ∧
      Credential.decodeBody r.body = .ok cs) :
    (e.watched r s).calls = [.update t d cs r.ifMatch] ∧
      (e.watched r s).state = (e.service.update t d cs r.ifMatch s).2 ∧
      TellsUpdate (e.service.update t d cs r.ifMatch s).1 (e.watched r s).response := by
  obtain ⟨response, spans, h, htells⟩ := handle_update
    (e := { e with service := e.service.recorded }) (s := (s, [])) hput hids hbody
  rw [watched, h]
  exact ⟨rfl, rfl, htells⟩

/-- Replacing makes no call when the body is not accepted, and the response tells whether it was too
long or no list of credentials. Identifiers come first, so they have to pass here. -/
theorem watched_refused (hput : r.method = "PUT")
    (hids : checkIds r.tenantId r.deviceId = .ok (t, d))
    (hbody : ¬ ∃ cs, r.body.length ≤ e.config.maxPayloadSize.toNat ∧
      Credential.decodeBody r.body = .ok cs) :
    (e.watched r s).calls = [] ∧ (e.watched r s).state = s ∧
      (e.config.maxPayloadSize.toNat < r.body.length → (e.watched r s).response.status.code = 413) ∧
      (r.body.length ≤ e.config.maxPayloadSize.toNat →
        (e.watched r s).response.status.code = 400) := by
  obtain ⟨response, spans, h, -, hlong, hshort⟩ := handle_refused
    (e := { e with service := e.service.recorded }) (s := (s, [])) hput hids hbody
  rw [watched, h]
  exact ⟨rfl, rfl, hlong, hshort⟩

/-- The service is handed the credentials of exactly the bodies that are not too long and can be
decoded. No other credentials are ever handed on for the body. -/
theorem watched_calls_iff {cs : List Credential} (hput : r.method = "PUT")
    (hids : checkIds r.tenantId r.deviceId = .ok (t, d)) :
    (e.watched r s).calls = [.update t d cs r.ifMatch] ↔
      r.body.length ≤ e.config.maxPayloadSize.toNat ∧ Credential.decodeBody r.body = .ok cs := by
  refine ⟨fun hcalls => ?_, fun hbody => (watched_update hput hids hbody).1⟩
  by_cases haccepted : ∃ cs, r.body.length ≤ e.config.maxPayloadSize.toNat ∧
      Credential.decodeBody r.body = .ok cs
  · obtain ⟨cs', hbody⟩ := haccepted
    rw [(watched_update hput hids hbody).1] at hcalls
    cases hcalls
    exact hbody
  · rw [(watched_refused hput hids haccepted).1] at hcalls
    cases hcalls

/-- A body that is too long and one that cannot be decoded are told apart by the status. An update
that was handed on has a call, and is neither. -/
theorem watched_refused_iff (hput : r.method = "PUT")
    (hids : checkIds r.tenantId r.deviceId = .ok (t, d)) :
    ((e.watched r s).calls = [] ∧ (e.watched r s).response.status.code = 413 ↔
      e.config.maxPayloadSize.toNat < r.body.length) ∧
    ((e.watched r s).calls = [] ∧ (e.watched r s).response.status.code = 400 ↔
      r.body.length ≤ e.config.maxPayloadSize.toNat ∧
        ¬ ∃ cs, Credential.decodeBody r.body = .ok cs) := by
  by_cases haccepted : ∃ cs, r.body.length ≤ e.config.maxPayloadSize.toNat ∧
      Credential.decodeBody r.body = .ok cs
  · obtain ⟨cs, hbody⟩ := haccepted
    have hcalls : (e.watched r s).calls ≠ [] := by
      rw [(watched_update hput hids hbody).1]
      exact List.cons_ne_nil _ _
    refine ⟨⟨fun h => absurd h.1 hcalls, fun h => absurd h (Nat.not_lt.2 hbody.1)⟩,
      ⟨fun h => absurd h.1 hcalls, fun h => absurd ⟨cs, hbody.2⟩ h.2⟩⟩
  -- Nothing is handed on, and the length decides between the two codes.
  · obtain ⟨hcalls, -, hlong, hshort⟩ := watched_refused (e := e) (s := s) hput hids haccepted
    rcases Nat.lt_or_ge e.config.maxPayloadSize.toNat r.body.length with hlt | hle
    · refine ⟨⟨fun _ => hlt, fun _ => ⟨hcalls, hlong hlt⟩⟩, ⟨fun h => ?_, fun h => ?_⟩⟩
      · rw [hlong hlt] at h
        exact absurd h.2 (by decide)
      · exact absurd hlt (Nat.not_lt.2 h.1)
    · refine ⟨⟨fun h => ?_, fun h => absurd hle (Nat.not_le.2 h)⟩,
        ⟨fun _ => ⟨hle, fun ⟨cs, hcs⟩ => haccepted ⟨cs, hle, hcs⟩⟩, fun _ => ⟨hcalls, hshort hle⟩⟩⟩
      rw [hshort hle] at h
      exact absurd h.2 (by decide)

/-- A request reads, or replaces, or reaches no service and leaves its state alone. What follows
about calls and states goes by these three cases. -/
theorem watched_cases (e : Endpoint σ) (r : Request) (s : σ) :
    (∃ t d, r.method = "GET" ∧ checkIds r.tenantId r.deviceId = .ok (t, d) ∧
      (e.watched r s).calls = [.read t d] ∧ (e.watched r s).state = (e.service.read t d s).2) ∨
    (∃ t d cs, r.method = "PUT" ∧ checkIds r.tenantId r.deviceId = .ok (t, d) ∧
      (r.body.length ≤ e.config.maxPayloadSize.toNat ∧ Credential.decodeBody r.body = .ok cs) ∧
      (e.watched r s).calls = [.update t d cs r.ifMatch] ∧
      (e.watched r s).state = (e.service.update t d cs r.ifMatch s).2) ∨
    ((e.watched r s).calls = [] ∧ (e.watched r s).state = s) := by
  -- The checks in the order in which the endpoint makes them. The first that fails decides that
  -- there is no call.
  by_cases hmethod : r.method = "GET" ∨ r.method = "PUT"
  · cases hids : checkIds r.tenantId r.deviceId with
    | error err =>
      rw [watched_invalid hmethod hids]
      exact .inr (.inr ⟨rfl, rfl⟩)
    | ok ids =>
      rcases hmethod with hget | hput
      · obtain ⟨hcalls, hstate, -⟩ := watched_read (e := e) (s := s) hget hids
        exact .inl ⟨ids.1, ids.2, hget, rfl, hcalls, hstate⟩
      · by_cases hbody : ∃ cs, r.body.length ≤ e.config.maxPayloadSize.toNat ∧
            Credential.decodeBody r.body = .ok cs
        · obtain ⟨cs, hbody⟩ := hbody
          obtain ⟨hcalls, hstate, -⟩ := watched_update (e := e) (s := s) hput hids hbody
          exact .inr (.inl ⟨ids.1, ids.2, cs, hput, rfl, hbody, hcalls, hstate⟩)
        · obtain ⟨hcalls, hstate, -⟩ := watched_refused (e := e) (s := s) hput hids hbody
          exact .inr (.inr ⟨hcalls, hstate⟩)
  · rw [not_or] at hmethod
    rw [watched_unknown hmethod.1 hmethod.2]
    exact .inr (.inr ⟨rfl, rfl⟩)

/-- The service is called at most once. There is no retry, and no reading in front of replacing. -/
theorem calls_length_le : (e.watched r s).calls.length ≤ 1 := by
  rcases e.watched_cases r s with
    ⟨t, d, -, -, hcalls, -⟩ | ⟨t, d, cs, -, -, -, hcalls, -⟩ | ⟨hcalls, -⟩
  · rw [hcalls]
    exact Nat.le_refl 1
  · rw [hcalls]
    exact Nat.le_refl 1
  · rw [hcalls]
    exact Nat.zero_le 1

/-- The service is asked for credentials exactly by the requests to read that name a device. The
version and the body do not matter. -/
theorem mem_calls_read_iff : .read t d ∈ (e.watched r s).calls ↔
    r.method = "GET" ∧ (r.tenantId = some t ∧ IsId t) ∧ (r.deviceId = some d ∧ IsId d) := by
  constructor
  · intro hcall
    rcases e.watched_cases r s with
      ⟨t', d', hget, hids, hcalls, -⟩ | ⟨t', d', cs, -, -, -, hcalls, -⟩ | ⟨hcalls, -⟩
    · rw [hcalls, List.mem_singleton] at hcall
      cases hcall
      exact ⟨hget, isId_of_checkIds hids⟩
    · rw [hcalls, List.mem_singleton] at hcall
      cases hcall
    · rw [hcalls] at hcall
      cases hcall
  · rintro ⟨hget, ht, hd⟩
    rw [(watched_read hget (checkIds_eq_ok ht hd)).1]
    exact List.mem_singleton_self _

/-- The service is handed credentials exactly by the requests to replace that name a device and
whose body is not too long and can be decoded as these. -/
theorem mem_calls_update_iff {cs : List Credential} {v : Option Version} :
    .update t d cs v ∈ (e.watched r s).calls ↔
      r.method = "PUT" ∧ (r.tenantId = some t ∧ IsId t) ∧ (r.deviceId = some d ∧ IsId d) ∧
        r.ifMatch = v ∧ r.body.length ≤ e.config.maxPayloadSize.toNat ∧
          Credential.decodeBody r.body = .ok cs := by
  -- The only call of a request is the one that its method stands for.
  constructor
  · intro hcall
    rcases e.watched_cases r s with
      ⟨t', d', -, -, hcalls, -⟩ | ⟨t', d', cs', hput, hids, hbody, hcalls, -⟩ | ⟨hcalls, -⟩
    · rw [hcalls, List.mem_singleton] at hcall
      cases hcall
    · rw [hcalls, List.mem_singleton] at hcall
      cases hcall
      obtain ⟨ht, hd⟩ := isId_of_checkIds hids
      exact ⟨hput, ht, hd, rfl, hbody⟩
    · rw [hcalls] at hcall
      cases hcall
  · rintro ⟨hput, ht, hd, rfl, hbody⟩
    rw [(watched_update hput (checkIds_eq_ok ht hd) hbody).1]
    exact List.mem_singleton_self _

/-- A request to replace that does not reach the service is a bad one, or too long. So every other
status comes from the service, which a history needs to know. -/
theorem status_of_refused (hput : r.method = "PUT") (h : (e.watched r s).calls = []) :
    (e.watched r s).response.status.code = 400 ∨ (e.watched r s).response.status.code = 413 := by
  -- Either identifier may be missing or malformed, and else it is the body.
  by_cases ht : ∃ t, r.tenantId = some t ∧ IsId t
  · by_cases hd : ∃ d, r.deviceId = some d ∧ IsId d
    · obtain ⟨⟨t, ht⟩, ⟨d, hd⟩⟩ := And.intro ht hd
      have hids := checkIds_eq_ok ht hd
      by_cases hbody : ∃ cs, r.body.length ≤ e.config.maxPayloadSize.toNat ∧
          Credential.decodeBody r.body = .ok cs
      · obtain ⟨cs, hbody⟩ := hbody
        rw [(watched_update hput hids hbody).1] at h
        cases h
      · obtain ⟨-, -, hlong, hshort⟩ := watched_refused (e := e) (s := s) hput hids hbody
        rcases Nat.lt_or_ge e.config.maxPayloadSize.toNat r.body.length with hlt | hle
        · exact .inr (hlong hlt)
        · exact .inl (hshort hle)
    · obtain ⟨reason, hids⟩ := checkIds_device ht hd
      rw [watched_invalid (.inr hput) hids]
      exact .inl rfl
  · obtain ⟨reason, hids⟩ := checkIds_tenant r.deviceId ht
    rw [watched_invalid (.inr hput) hids]
    exact .inl rfl

/-- What a request to an endpoint has to come to. -/
structure Effect.IsFaithful (f : Effect σ) (e : Endpoint σ) (r : Request) (s : σ) : Prop where
  /-- The service is called once at most. -/
  once : f.calls.length ≤ 1
  /-- Another method than the two is refused. -/
  unknown : r.method ≠ "GET" ∧ r.method ≠ "PUT" →
    f.calls = [] ∧ f.state = s ∧ f.response.status.code = 405
  /-- A tenant without a proper identifier is refused, whatever the device. -/
  tenant : (r.method = "GET" ∨ r.method = "PUT") ∧ (¬ ∃ t, r.tenantId = some t ∧ IsId t) →
    f.calls = [] ∧ f.state = s ∧ f.response.status.code = 400 ∧
      ∃ reason, f.response.body = .text (RegistryError.invalidParameter "tenant_id" reason).message
  /-- A device without a proper identifier is refused when the tenant has one. -/
  device : (r.method = "GET" ∨ r.method = "PUT") ∧ (∃ t, r.tenantId = some t ∧ IsId t) ∧
      (¬ ∃ d, r.deviceId = some d ∧ IsId d) →
    f.calls = [] ∧ f.state = s ∧ f.response.status.code = 400 ∧
      ∃ reason, f.response.body = .text (RegistryError.invalidParameter "device_id" reason).message
  /-- Reading asks the service for the device. The body and the version do not matter. -/
  reads : ∀ t d, r.method = "GET" ∧ (r.tenantId = some t ∧ IsId t) ∧
      (r.deviceId = some d ∧ IsId d) →
    f.calls = [.read t d] ∧ f.state = (e.service.read t d s).2 ∧
      TellsRead (e.service.read t d s).1 f.response ∧
      ∀ body ifMatch, e.watched { r with body := body, ifMatch := ifMatch } s = f
  /-- Replacing hands the credentials of the body to the service, with the version as it was sent,
  exactly when the body is not too long and can be decoded. -/
  updates : ∀ t d, r.method = "PUT" ∧ (r.tenantId = some t ∧ IsId t) ∧
      (r.deviceId = some d ∧ IsId d) → ∀ cs,
    (f.calls = [.update t d cs r.ifMatch] ↔
      r.body.length ≤ e.config.maxPayloadSize.toNat ∧ Credential.decodeBody r.body = .ok cs) ∧
    (f.calls = [.update t d cs r.ifMatch] →
      f.state = (e.service.update t d cs r.ifMatch s).2 ∧
        TellsUpdate (e.service.update t d cs r.ifMatch s).1 f.response)
  /-- Any other body is refused. -/
  refuses : ∀ t d, r.method = "PUT" ∧ (r.tenantId = some t ∧ IsId t) ∧
      (r.deviceId = some d ∧ IsId d) ∧
      (¬ ∃ cs, r.body.length ≤ e.config.maxPayloadSize.toNat ∧
        Credential.decodeBody r.body = .ok cs) →
    f.calls = [] ∧ f.state = s ∧ f.response.status.code =
      if e.config.maxPayloadSize.toNat < r.body.length then 413 else 400

/-- Every request to every endpoint comes to what it has to, whatever the service says. Each part is
one of the paths of a request, watched for the calls that are made. -/
theorem handle_isFaithful (e : Endpoint σ) (r : Request) (s : σ) :
    (e.watched r s).response = (e.handle r s).1.response ∧
      (e.watched r s).state = (e.handle r s).2 ∧ (e.watched r s).IsFaithful e r s := by
  refine ⟨watched_eq_handle.1, watched_eq_handle.2, ?_⟩
  constructor
  case once => exact calls_length_le
  case unknown =>
    rintro ⟨hget, hput⟩
    rw [watched_unknown hget hput]
    exact ⟨rfl, rfl, rfl⟩
  case tenant =>
    rintro ⟨hmethod, ht⟩
    obtain ⟨reason, hids⟩ := checkIds_tenant r.deviceId ht
    rw [watched_invalid hmethod hids]
    exact ⟨rfl, rfl, rfl, reason, rfl⟩
  case device =>
    rintro ⟨hmethod, ht, hd⟩
    obtain ⟨reason, hids⟩ := checkIds_device ht hd
    rw [watched_invalid hmethod hids]
    exact ⟨rfl, rfl, rfl, reason, rfl⟩
  case reads =>
    rintro t d ⟨hget, ht, hd⟩
    obtain ⟨hcalls, hstate, htells⟩ := watched_read (e := e) (s := s) hget (checkIds_eq_ok ht hd)
    refine ⟨hcalls, hstate, htells, fun body ifMatch => ?_⟩
    -- The body and the version are not read for this method, whatever they are.
    have hsame : ({ r with body := body, ifMatch := ifMatch } : Request).method = "GET" := hget
    rw [watched, watched, handle_get hsame, handle_get hget]
  case updates =>
    rintro t d ⟨hput, ht, hd⟩ cs
    have hids := checkIds_eq_ok ht hd
    refine ⟨watched_calls_iff hput hids, fun hcalls => ?_⟩
    have hbody := (watched_calls_iff hput hids).1 hcalls
    exact (watched_update hput hids hbody).2
  case refuses =>
    rintro t d ⟨hput, ht, hd, hbody⟩
    obtain ⟨hcalls, hstate, hlong, hshort⟩ :=
      watched_refused (e := e) (s := s) hput (checkIds_eq_ok ht hd) hbody
    refine ⟨hcalls, hstate, ?_⟩
    split
    · rename_i h
      exact hlong h
    · rename_i h
      exact hshort (Nat.not_lt.1 h)

end DeviceRegistry.Management.Endpoint
