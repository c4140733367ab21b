import DeviceRegistry.Client.Error
import DeviceRegistry.Proofs.Management.Accounting

/-!
# `DeviceRegistry.Proofs.Classes`: the class of an error is that of its code

An error blames a side and is reported with a status. The two are decided apart: for a failure of a
service by how it is built, for an error of a request by one table each, and for an error of a
client by the failure that it turns into. Main statements:

* `classified_builds`, `ofStatus_builds`: a failure is built exactly from the codes of its class.
* `ServiceError.isReported`: a failure is reported with its own code, which is one of its class.
* `RegistryError.isRendered`: an error is rendered with a code of its class and with its text.
* `Client.Error.isTransient_iff`: what may be tried again is reported as unavailable or as late.
* `errors_are_classified`: side and status agree however an error comes about.
-/

set_option autoImplicit false

namespace DeviceRegistry

open DeviceRegistry.Management (Response)

variable {code : Nat} {c : StatusClass}

/-! ### Classes of codes -/

/-- The class of a code is the one that holds it; no two do, since the one ends where the other
begins. It turns the search in the table of classes into a range. -/
theorem StatusClass.of?_eq_some_iff : StatusClass.of? code = some c ↔ c.Holds code := by
  unfold StatusClass.of? StatusClass.Holds StatusClass.bound
  cases c <;> grind [StatusClass.least]

/-- A code has no class exactly when it is outside of 400 to 599: the two classes together are these
codes, without a gap between them. -/
theorem StatusClass.of?_eq_none_iff :
    StatusClass.of? code = none ↔ ¬ (400 ≤ code ∧ code < 600) := by
  unfold StatusClass.of? StatusClass.Holds StatusClass.bound
  grind [StatusClass.least]

/-! ### Failures of a service -/

namespace ServiceError

/-- A failure as it is built: with a side, a code and a message, and without a cause. -/
structure IsBuilt (e : ServiceError) (side : StatusClass) (code : Nat) (message : Option String) :
    Prop where
  side_eq : e.side = side
  code_eq : e.code = code
  message_eq : e.message = message
  cause_eq : e.cause = none

/-- A failure of some kind is built if its code is admitted, and refused if it is not. -/
def BuildsIf (admitted : Prop) (built : Except Misclassified ServiceError)
    (IsKind : ServiceError → Prop) (refusal : Misclassified) : Prop :=
  (admitted → ∃ e, built = .ok e ∧ IsKind e) ∧ (¬ admitted → built = .error refusal)

/-- A failure is reported with its own code, which a response can carry and which has the class of
the failure. -/
structure IsReported (e : ServiceError) : Prop where
  of?_code : StatusClass.of? e.code = some e.side
  of?_status : Status.of? e.code = some e.status
  status_code : e.status.code = e.code

/-- A failure blames the same side as another, with the same code, status and text. -/
structure IsAlike (e e' : ServiceError) : Prop where
  side_eq : e.side = e'.side
  code_eq : e.code = e'.code
  status_eq : e.status = e'.status
  message_eq : e.message = e'.message
  text_eq : e.text = e'.text

/-- With a given side, a failure is built from the codes of that side and from no others; what is
built keeps side, code and message and has no cause yet. -/
theorem classified_builds (c : StatusClass) (code : Nat) (message : Option String) :
    BuildsIf (c.Holds code) (classified c code message) (·.IsBuilt c code message)
      (.outOfRange c code) := by
  refine ⟨fun h => ?_, fun h => dif_neg h⟩
  exact ⟨⟨c, code, message, none, h⟩, dif_pos h, rfl, rfl, rfl, rfl⟩

/-- Without a side, a failure is built from every code that has a class, and blames the side of that
class; any other code is refused as no error at all. -/
theorem ofStatus_builds (code : Nat) (message : Option String) :
    BuildsIf (400 ≤ code ∧ code < 600) (ofStatus code message)
      (fun e => StatusClass.of? code = some e.side ∧ e.IsBuilt e.side code message)
      (.notAnError code) := by
  unfold ofStatus
  refine ⟨fun h => ?_, fun h => ?_⟩
  · obtain ⟨side, hside⟩ : ∃ side, StatusClass.of? code = some side := by
      rw [← Option.ne_none_iff_exists']
      exact fun hnone => StatusClass.of?_eq_none_iff.1 hnone h
    -- The class that was found holds the code, so that the check of it cannot fail.
    obtain ⟨e, he, hbuilt⟩ :=
      (classified_builds side code message).1 (StatusClass.of?_eq_some_iff.1 hside)
    rw [hside]
    exact ⟨e, he, by rw [hbuilt.side_eq], rfl, hbuilt.code_eq, hbuilt.message_eq, hbuilt.cause_eq⟩
  · rw [StatusClass.of?_eq_none_iff.2 h]

/-- Every failure is reported with its own code: that has three digits, so a response can carry it,
and it still is one of the class of the failure. -/
theorem isReported (e : ServiceError) : e.IsReported := by
  have hcode : e.status.code = e.code := Management.Endpoint.ofService_status_code e
  refine ⟨StatusClass.of?_eq_some_iff.2 e.holds_code, ?_, hcode⟩
  rw [← hcode]
  exact dif_pos e.status.three_digits

/-- A cause is kept beside what is reported: side, code, status and text are the same with it, so
whoever adds one need not care about the response. -/
theorem withCause_isAlike (e : ServiceError) (cause : String) : (e.withCause cause).IsAlike e :=
  ⟨rfl, rfl, rfl, rfl, rfl⟩

end ServiceError

/-! ### Errors of a request -/

/-- An error is rendered with a code of the class that it is attributed to, which is 400 if the
payload is at fault; what is rendered is its text, without a version. -/
structure RegistryError.IsRendered (e : RegistryError) : Prop where
  of?_status : StatusClass.of? e.status.code = some e.side
  of_isValidation : e.isValidation = true → e.status.code = 400
  status_eq : (Response.ofError e).status = e.status
  etag_eq : (Response.ofError e).etag = none
  body_eq : (Response.ofError e).body = .text e.message

/-- Every error of a request is rendered with a code of its class and with its text. That it is 400
when the payload is at fault comes from the table of statuses. -/
theorem RegistryError.isRendered (e : RegistryError) : e.IsRendered where
  of?_status := StatusClass.of?_eq_some_iff.2 e.side_holds
  of_isValidation h := congrArg Status.code (RegistryError.status_of_isValidation h).1
  status_eq := rfl
  etag_eq := rfl
  body_eq := rfl

/-! ### Errors of a client -/

namespace Client.Error

/-- An error of a client turns into a failure of the service, with the text of the error as its
message and as its cause. -/
structure IsConverted (e : Error) : Prop where
  side_eq : e.toServiceError.side = .server
  text_eq : e.toServiceError.text = e.message
  cause_eq : e.toServiceError.cause = some e.message
  isReported : e.toServiceError.IsReported
  /-- Credentials that cannot be written keep their own error. -/
  of_payload : ∀ err, e = .payload err → e.toRegistryError = err
  of_other : (∀ err, e ≠ .payload err) → e.toRegistryError = .service e.toServiceError
  isRendered : e.toRegistryError.IsRendered

/-- An error of a client becomes a failure of the server with one of three codes, and with 503 or
504 exactly when the client says that it may be tried again. The cases are the kinds of faults. -/
theorem toFailure_isBuilt (e : Error) :
    ∃ code, e.toFailure.IsBuilt .server code (some e.message) ∧
      (e.isTransient = true ↔ code = 503 ∨ code = 504) := by
  cases e with
  | timeout seconds => exact ⟨504, ⟨rfl, rfl, rfl, rfl⟩, by simp [isTransient]⟩
  | transport fault =>
    cases fault with
    | refused url => exact ⟨503, ⟨rfl, rfl, rfl, rfl⟩, by simp [isTransient]⟩
    | stalled => exact ⟨504, ⟨rfl, rfl, rfl, rfl⟩, by simp [isTransient]⟩
    | closed _ | cut | unsendable _ | header =>
      exact ⟨502, ⟨rfl, rfl, rfl, rfl⟩, by simp [isTransient]⟩
  | deserialization _ _ => exact ⟨502, ⟨rfl, rfl, rfl, rfl⟩, by simp [isTransient]⟩
  | invalidBaseUrl _ | tls _ | payload _ =>
    exact ⟨500, ⟨rfl, rfl, rfl, rfl⟩, by simp [isTransient]⟩

/-- An error of a client turns into a failure and into an error of a request that both keep its
text; only what was wrong with a payload stays the error that it was. -/
theorem isConverted (e : Error) : e.IsConverted := by
  obtain ⟨code, hbuilt, -⟩ := e.toFailure_isBuilt
  have halike := e.toFailure.withCause_isAlike e.message
  refine ⟨halike.side_eq.trans hbuilt.side_eq, halike.text_eq.trans ?_, rfl,
    e.toServiceError.isReported, ?_, fun h => ?_, e.toRegistryError.isRendered⟩
  · unfold ServiceError.text
    rw [hbuilt.message_eq]
  · rintro err rfl
    rfl
  · cases e with
    | payload err => exact absurd rfl (h err)
    | _ => rfl

/-- What may be tried again is reported as unavailable or as late, and nothing else is, so whoever
sees only the response can decide by its status. -/
theorem isTransient_iff (e : Error) :
    e.isTransient = true ↔ e.toServiceError.code = 503 ∨ e.toServiceError.code = 504 := by
  obtain ⟨code, hbuilt, htransient⟩ := e.toFailure_isBuilt
  have hcode : e.toServiceError.code = code :=
    (e.toFailure.withCause_isAlike e.message).code_eq.trans hbuilt.code_eq
  rw [hcode]
  exact htransient

end Client.Error

/-! ### All errors -/

/-- Side and status of an error agree: a failure is built exactly from the codes of its class, is
reported with its own code, and keeps both whatever caused it; an error of a request is rendered
with a code of its class; and an error of a client becomes such an error, with a status that says
whether it may be tried again. -/
theorem errors_are_classified :
    (∀ code message,
      ServiceError.BuildsIf (400 ≤ code ∧ code < 500) (ServiceError.client code message)
        (·.IsBuilt .client code (some message)) (.outOfRange .client code)) ∧
    (∀ code message,
      ServiceError.BuildsIf (500 ≤ code ∧ code < 600) (ServiceError.server code message)
        (·.IsBuilt .server code (some message)) (.outOfRange .server code)) ∧
    (∀ code message,
      ServiceError.BuildsIf (400 ≤ code ∧ code < 600) (ServiceError.ofStatus code message)
        (fun e => StatusClass.of? code = some e.side ∧ e.IsBuilt e.side code message)
        (.notAnError code)) ∧
    (∀ message,
      (ServiceError.badRequest message).IsBuilt .client 400 (some message) ∧
      (ServiceError.internal message).IsBuilt .server 500 (some message) ∧
      (ServiceError.badGateway message).IsBuilt .server 502 (some message) ∧
      (ServiceError.unavailable message).IsBuilt .server 503 (some message) ∧
      (ServiceError.gatewayTimeout message).IsBuilt .server 504 (some message)) ∧
    (∀ e : ServiceError, e.IsReported ∧
      ∀ cause, (e.withCause cause).IsAlike e ∧ (e.withCause cause).cause = some cause) ∧
    (∀ e : RegistryError, e.IsRendered) ∧
    (∀ e : Client.Error, e.IsConverted ∧
      (e.isTransient = true ↔ e.toServiceError.code = 503 ∨ e.toServiceError.code = 504)) := by
  refine ⟨fun code message => ServiceError.classified_builds .client code message,
    fun code message => ServiceError.classified_builds .server code message,
    ServiceError.ofStatus_builds, fun message => ?_,
    fun e => ⟨e.isReported, fun cause => ⟨e.withCause_isAlike cause, rfl⟩⟩,
    RegistryError.isRendered, fun e => ⟨e.isConverted, e.isTransient_iff⟩⟩
  -- The five shorthands are built with codes of their own, so each is checked by computing it.
  exact ⟨⟨rfl, rfl, rfl, rfl⟩, ⟨rfl, rfl, rfl, rfl⟩, ⟨rfl, rfl, rfl, rfl⟩, ⟨rfl, rfl, rfl, rfl⟩,
    ⟨rfl, rfl, rfl, rfl⟩⟩

end DeviceRegistry
