import DeviceRegistry.Proofs.Credential.DecodeAll
import DeviceRegistry.Proofs.Management.Handle
import DeviceRegistry.Proofs.Management.Span

/-!
# `DeviceRegistry.Proofs.Management.Accounting`: what the span of a request says

A request that names one of the two methods is followed by one span, and the span agrees with the
response. Main statements:

* `Span.IsOpen.finish`: a span that is closed with a response accounts for it.
* `handle_accounts`: so does the span of every request, with the error that is to blame.
-/

set_option autoImplicit false

namespace DeviceRegistry

/-- The side of an error agrees with the code that it is reported with. A failure of a service was
made with such a code, and any other error has a code of its own. -/
theorem RegistryError.side_holds (err : RegistryError) : err.side.Holds err.status.code := by
  cases err with
  | service err =>
    have hcode : (RegistryError.service err).status.code = err.code :=
      Management.Endpoint.ofService_status_code err
    rw [hcode]
    exact err.holds_code
  | missingField _ | patternMismatch _ _ _ | mutuallyExclusive _ _ | invalidCredential _ _
  | malformedPayload _ | invalidParameter _ _ => exact (by decide : StatusClass.client.Holds 400)
  | methodNotAllowed _ => exact (by decide : StatusClass.client.Holds 405)
  | payloadTooLarge _ _ => exact (by decide : StatusClass.client.Holds 413)
  | encoding _ | invalidStatus _ | classification _ =>
    exact (by decide : StatusClass.server.Holds 500)

/-- Every error is reported with a code that reports an error, on either side. -/
theorem RegistryError.isError_status (err : RegistryError) : err.status.isError = true := by
  have hholds := err.side_holds
  rw [Status.isError_iff]
  unfold StatusClass.Holds StatusClass.bound at hholds
  cases hside : err.side <;>
    rw [hside] at hholds <;>
    simp only [StatusClass.least] at hholds <;>
    omega

namespace Management

namespace Span

variable {sp : Span} {task : Task} {response : Response} {blamed : Option RegistryError}

/-! ### Spans that account for a response -/

/-- A span that was closed once, with the response to its request, and reports the error that is to
blame for the response, if there is one. -/
structure Accounts (sp : Span) (name : String) (response : Response)
    (blamed : Option RegistryError) : Prop where
  name : sp.task.spanName = name
  closed : sp.closed = 1
  /-- The code of the response is recorded once. -/
  code : sp.held "http.status_code" = [.number response.status.code]
  /-- The span is marked exactly when the code reports an error. -/
  error : .flag true ∈ sp.held "error" ↔
    400 ≤ response.status.code ∧ response.status.code ≤ 599
  /-- The error is reported once, as a warning when the service is at fault, with the status of the
  response. -/
  blames : ∀ err, blamed = some err → response.status = err.status ∧ ∃ ev, sp.faults = [ev] ∧
    (ev.message = "request failed" ∧ ev.isWarning = true ↔ err.side = .server) ∧
    (ev.message = "request rejected" ∧ ev.isWarning = false ↔ err.side = .client) ∧
    ev.fields = [("status", .number response.status.code), ("error", .text err.message)]
  /-- A response without one to blame is reported by none. -/
  passes : blamed = none → sp.faults = []
  present : ∀ ev ∈ sp.events, ev.message ≠ "request abandoned before a response was produced"

/-- An open span that is closed with a response accounts for it, when the response has the status of
the error that was met. The mark on the span comes from the error or the code, which agree. -/
theorem IsOpen.finish (h : sp.IsOpen task blamed.toList)
    (hstatus : ∀ err, blamed = some err → response.status = err.status) :
    (sp.finish response).Accounts task.spanName response blamed := by
  have hanswered := h.answered response
  constructor
  case name => exact congrArg Task.spanName hanswered.task
  case closed => exact hanswered.closed
  case code => exact hanswered.code
  case error =>
    rw [hanswered.error, or_iff_right_of_imp]
    -- The status of an error marks the span by itself.
    intro hmet
    obtain ⟨err, herr⟩ := List.exists_mem_of_ne_nil _ hmet
    rw [hstatus err (Option.mem_toList.1 herr), ← Status.isError_iff]
    exact err.isError_status
  case blames =>
    rintro err rfl
    have hreports := Event.ofError_reports err
    refine ⟨hstatus err rfl, Event.ofError err, hanswered.faults, ?_, ?_, ?_⟩
    · rw [hreports.warning]
      refine ⟨And.right, fun hside => ⟨?_, hside⟩⟩
      rw [hreports.message, hside]
    · rw [← Bool.not_eq_true, hreports.warning]
      cases hside : err.side <;> rw [hreports.message, hside] <;> decide
    · rw [hstatus err rfl, hreports.fields]
  case passes =>
    rintro rfl
    exact hanswered.faults
  case present =>
    intro ev hev hmessage
    rw [Event.message_eq_abandoned_iff.1 hmessage] at hev
    exact hanswered.present hev

/-- A span that is closed with an error accounts for it. The error is met first, and its response is
the one that closes the span. -/
theorem IsOpen.fail (h : sp.IsOpen task []) (err : RegistryError) :
    (sp.fail err).Accounts task.spanName (.ofError err) (some err) := by
  refine (h.logError err).finish fun err' herr => ?_
  cases herr
  rfl

end Span

/-! ### What is to blame for a response -/

/-- What a service says is passed on when its outcome has a code that a response can carry. Its
failure and any other code are to blame for the response. -/
inductive Blames {α : Type} : Except ServiceError (Outcome α) → Option RegistryError → Prop
  | failure (err : ServiceError) : Blames (.error err) (some (.service err))
  | code (o : Outcome α) (h : ¬ (100 ≤ o.status ∧ o.status ≤ 999)) :
    Blames (.ok o) (some (.invalidStatus o.status))
  | nothing (o : Outcome α) (h : 100 ≤ o.status ∧ o.status ≤ 999) : Blames (.ok o) none

/-- Something that a service says is to blame, or nothing is. -/
theorem exists_blames {α : Type} (said : Except ServiceError (Outcome α)) :
    ∃ blamed, Blames said blamed := by
  cases said with
  | error err => exact ⟨_, .failure err⟩
  | ok o =>
    by_cases hrange : 100 ≤ o.status ∧ o.status ≤ 999
    · exact ⟨_, .nothing o hrange⟩
    · exact ⟨_, .code o hrange⟩

/-- An answer with one span, which accounts for the response. -/
def Answer.Accounts (a : Answer) (name : String) (blamed : Option RegistryError) : Prop :=
  ∃ sp, a.spans = [sp] ∧ sp.Accounts name a.response blamed

namespace Endpoint

variable {σ : Type} {e : Endpoint σ} {r : Request} {s : σ} {sp : Span}

/-- What is to blame for the response to a request with one of the two methods: its identifiers, its
body, the credentials of the body, or what the service says. -/
inductive Blamed (e : Endpoint σ) (r : Request) (s : σ) : Option RegistryError → Prop
  | ids {err : RegistryError} (hids : checkIds r.tenantId r.deviceId = .error err) :
    Blamed e r s (some err)
  | read {t d : String} {blamed : Option RegistryError} (hget : r.method = "GET")
      (hids : checkIds r.tenantId r.deviceId = .ok (t, d))
      (hsaid : Blames (e.service.read t d s).1 blamed) : Blamed e r s blamed
  | body {t d : String} {err : RegistryError} (hput : r.method = "PUT")
      (hids : checkIds r.tenantId r.deviceId = .ok (t, d))
      (hbody : itemsOf e.config.maxPayloadSize.toNat r.body = .error err) :
    Blamed e r s (some err)
  | credentials {t d : String} {vs : List Json.Value} {err : RegistryError}
      (hput : r.method = "PUT") (hids : checkIds r.tenantId r.deviceId = .ok (t, d))
      (hbody : itemsOf e.config.maxPayloadSize.toNat r.body = .ok vs)
      (hdecode : Credential.decodeAll vs = .error err) : Blamed e r s (some err)
  | update {t d : String} {vs : List Json.Value} {cs : List Credential}
      {blamed : Option RegistryError} (hput : r.method = "PUT")
      (hids : checkIds r.tenantId r.deviceId = .ok (t, d))
      (hbody : itemsOf e.config.maxPayloadSize.toNat r.body = .ok vs)
      (hdecode : Credential.decodeAll vs = .ok cs)
      (hsaid : Blames (e.service.update t d cs r.ifMatch s).1 blamed) : Blamed e r s blamed

/-- Something is to blame for every response, or nothing is. The cases are the paths of a request,
in the order in which it is checked. -/
theorem exists_blamed (e : Endpoint σ) (s : σ) (hmethod : r.method = "GET" ∨ r.method = "PUT") :
    ∃ blamed, Blamed e r s blamed := by
  cases hids : checkIds r.tenantId r.deviceId with
  | error err => exact ⟨_, .ids hids⟩
  | ok ids =>
    rcases hmethod with hget | hput
    · obtain ⟨blamed, hsaid⟩ := exists_blames (e.service.read ids.1 ids.2 s).1
      exact ⟨blamed, .read hget hids hsaid⟩
    · cases hbody : itemsOf e.config.maxPayloadSize.toNat r.body with
      | error err => exact ⟨_, .body hput hids hbody⟩
      | ok vs =>
        cases hdecode : Credential.decodeAll vs with
        | error err => exact ⟨_, .credentials hput hids hbody hdecode⟩
        | ok cs =>
          obtain ⟨blamed, hsaid⟩ := exists_blames (e.service.update ids.1 ids.2 cs r.ifMatch s).1
          exact ⟨blamed, .update hput hids hbody hdecode hsaid⟩

/-- Without an error to blame, there is none that the status has to agree with. -/
theorem status_of_none {response : Response} (err : RegistryError) (h : none = some err) :
    response.status = err.status := by
  cases h

/-- A code that a response can carry is a status. All others are turned into an error, which is told
to be one of the server. -/
theorem outcomeStatus_eq_ok {code : Nat} (h : 100 ≤ code ∧ code ≤ 999) :
    ∃ status, outcomeStatus code = .ok status := by
  rcases outcomeStatus_eq code with ⟨status, hstatus, -⟩ | ⟨-, hno⟩
  · exact ⟨status, hstatus⟩
  · exact absurd h hno

/-- A code that a response cannot carry is reported as such. -/
theorem outcomeStatus_eq_error {code : Nat} (h : ¬ (100 ≤ code ∧ code ≤ 999)) :
    outcomeStatus code = .error (.invalidStatus code) := by
  rcases outcomeStatus_eq code with ⟨-, -, -, hrange⟩ | ⟨hstatus, -⟩
  · exact absurd hrange h
  · exact hstatus

/-- Whatever the service says to reading, the span accounts for the response to it. The three kinds
of answer are an error, a success and an outcome that is none, and each writes on the span once. -/
theorem answerRead_accounts {said : Except ServiceError (Outcome (List Credential))}
    {blamed : Option RegistryError} (h : sp.IsOpen .read []) (hsaid : Blames said blamed) :
    (answerRead sp said).Accounts Task.read.spanName blamed := by
  cases hsaid with
  | failure err => exact ⟨_, rfl, h.fail _⟩
  | code o hno =>
    have hstatus := outcomeStatus_eq_error hno
    simp only [answerRead, hstatus]
    exact ⟨_, rfl, h.fail _⟩
  | nothing o hrange =>
    obtain ⟨status, hstatus⟩ := outcomeStatus_eq_ok hrange
    have hlogged : (sp.log (.nothingReturned o.status)).IsOpen .read [] :=
      h.log (by simp [Event.message])
    simp only [answerRead, hstatus]
    split
    · exact ⟨_, rfl, h.finish status_of_none⟩
    · exact ⟨_, rfl, hlogged.finish status_of_none⟩

/-- Whatever the service says to replacing, the span accounts for the response to it. It is the
lemma on reading over again, with an answer that has no credentials. -/
theorem answerUpdate_accounts {said : Except ServiceError (Outcome Unit)}
    {blamed : Option RegistryError} (h : sp.IsOpen .update []) (hsaid : Blames said blamed) :
    (answerUpdate sp said).Accounts Task.update.spanName blamed := by
  cases hsaid with
  | failure err => exact ⟨_, rfl, h.fail _⟩
  | code o hno =>
    have hstatus := outcomeStatus_eq_error hno
    simp only [answerUpdate, hstatus]
    exact ⟨_, rfl, h.fail _⟩
  | nothing o hrange =>
    obtain ⟨status, hstatus⟩ := outcomeStatus_eq_ok hrange
    simp only [answerUpdate, hstatus]
    exact ⟨_, rfl, h.finish status_of_none⟩

/-- A request to read is followed by a span that accounts for the response. The cases are what may
be to blame; a body cannot be. -/
theorem read_accounts {blamed : Option RegistryError} (hget : r.method = "GET")
    (h : Blamed e r s blamed) : (e.handle r s).1.Accounts Task.read.spanName blamed := by
  have hopened := Span.opened_isOpen .read r.tenantId r.deviceId
  have hput : r.method ≠ "PUT" := by rw [hget]; decide
  rw [handle_get hget]
  cases h with
  | ids hids =>
    rw [read_invalid hids]
    exact ⟨_, rfl, hopened.fail _⟩
  | read _ hids hsaid =>
    rw [read_asks hids]
    exact answerRead_accounts (hopened.log (by simp [Event.message])) hsaid
  | body h => exact absurd h hput
  | credentials h => exact absurd h hput
  | update h => exact absurd h hput

/-- A request to replace is followed by a span that accounts for the response. The cases are what
may be to blame. -/
theorem update_accounts {blamed : Option RegistryError} (hput : r.method = "PUT")
    (h : Blamed e r s blamed) : (e.handle r s).1.Accounts Task.update.spanName blamed := by
  have hopened := Span.opened_isOpen .update r.tenantId r.deviceId
  have hget : r.method ≠ "GET" := by rw [hput]; decide
  rw [handle_put hput]
  cases h with
  | ids hids =>
    rw [update_invalid hids]
    exact ⟨_, rfl, hopened.fail _⟩
  | read h => exact absurd h hget
  | body _ hids hbody =>
    rw [update_malformed hids hbody]
    exact ⟨_, rfl, hopened.fail _⟩
  | credentials _ hids hbody hdecode =>
    rw [update_undecodable hids hbody hdecode]
    -- The response does not tell what is wrong, but it has the status of the error.
    refine ⟨_, rfl, (hopened.logError _).finish fun err herr => ?_⟩
    cases herr
    have hvalidation := Credential.isValidation_of_decodeAll hdecode
    exact (RegistryError.status_of_isValidation hvalidation).1.symm
  | update _ hids hbody hdecode hsaid =>
    rw [update_asks hids hbody hdecode]
    exact answerUpdate_accounts (hopened.log (by simp [Event.message])) hsaid

/-- Every request with one of the two methods is followed by one span, which is named after the
method and accounts for the response with what is to blame. No other request is followed by a
span. -/
theorem handle_accounts (e : Endpoint σ) (r : Request) (s : σ) :
    (r.method = "GET" ∨ r.method = "PUT" →
      (∃ blamed, Blamed e r s blamed) ∧ ∀ blamed, Blamed e r s blamed →
        ∃ sp, (e.handle r s).1.spans = [sp] ∧
          sp.Accounts
            (if r.method = "GET" then "get Credentials from management API"
              else "update Credentials from management API")
            (e.handle r s).1.response blamed) ∧
    (r.method ≠ "GET" ∧ r.method ≠ "PUT" → (e.handle r s).1.spans = []) := by
  refine ⟨fun hmethod => ⟨exists_blamed e s hmethod, fun blamed hblamed => ?_⟩, ?_⟩
  · rcases hmethod with hget | hput
    · rw [if_pos hget]
      exact read_accounts hget hblamed
    · have hget : r.method ≠ "GET" := by rw [hput]; decide
      rw [if_neg hget]
      exact update_accounts hput hblamed
  · rintro ⟨hget, hput⟩
    rw [handle_unknown hget hput]

end Endpoint

end Management

end DeviceRegistry
