import DeviceRegistry.Management.Span
import Mathlib.Data.List.Forall2

/-!
# `DeviceRegistry.Proofs.Management.Span`: what is on a span, and what a guard leaves

A span that is open says which errors were met and nothing of a response. Closing it adds the status
of the response, or that there was none. A guard closes its span whichever way it is given up, and
what is on the span tells that way apart from the others. Main statements:

* `Span.IsOpen.logError`, `Guard.IsOpen.logErrors`: what errors leave on an open span.
* `Guard.life_tells`: what is left of a guard tells how it was used and how it was given up.
-/

set_option autoImplicit false

namespace DeviceRegistry

/-- Statuses report errors by their code. Codes above 599 are no errors here, though they are no
successes either. -/
theorem Status.isError_iff {s : Status} : s.isError = true ↔ 400 ≤ s.code ∧ s.code ≤ 599 := by
  unfold Status.isError
  rw [Bool.and_eq_true, decide_eq_true_eq, decide_eq_true_eq]
  omega

namespace Management

/-! ### Events -/

/-- An event that reports an error: as a warning exactly when the service is at fault, with the
status and the text of the error. -/
structure Event.Reports (ev : Event) (err : RegistryError) : Prop where
  message : ev.message =
    match err.side with | .server => "request failed" | .client => "request rejected"
  warning : ev.isWarning = true ↔ err.side = .server
  fields : ev.fields = [("status", .number err.status.code), ("error", .text err.message)]

/-- The event of an error reports it, on the level of the side that is at fault. -/
theorem Event.ofError_reports (err : RegistryError) : (Event.ofError err).Reports err := by
  unfold Event.ofError
  constructor <;> cases err.side <;> simp [Event.message, Event.isWarning, Event.fields]

/-- The events of errors report them, each by one event, in their order. -/
theorem Event.reports_map_ofError (errs : List RegistryError) :
    List.Forall₂ Event.Reports (errs.map Event.ofError) errs := by
  rw [List.forall₂_map_left_iff, List.forall₂_same]
  exact fun err _ => Event.ofError_reports err

/-- Only one event has the message of an abandoned request. So the message tells that a request was
abandoned. -/
theorem Event.message_eq_abandoned_iff {ev : Event} :
    ev.message = "request abandoned before a response was produced" ↔ ev = .abandoned := by
  cases ev <;> simp [Event.message]

/-- No error is reported by that event. An abandoned request had no error that could be reported. -/
theorem Event.ofError_ne_abandoned (err : RegistryError) : Event.ofError err ≠ .abandoned := by
  unfold Event.ofError
  cases err.side <;> exact Event.noConfusion

/-! ### What is on a span -/

namespace Span

variable {sp : Span} {task : Task} {response : Response} {met : List RegistryError}

/-- What a span holds under a name, in the order in which it was recorded. -/
def held (sp : Span) (name : String) : List Datum :=
  (sp.entries.map Entry.field).filterMap fun (n, d) => if n = name then some d else none

/-- The events that report a failure of the request. -/
def faults (sp : Span) : List Event :=
  sp.events.filter fun ev => ev.message = "request failed" ∨ ev.message = "request rejected"

/-- An entry is held under its own name, behind those that were recorded before. -/
theorem held_record (e : Entry) (name : String) :
    (sp.record e).held name =
      sp.held name ++ if e.field.1 = name then [e.field.2] else [] := by
  unfold held record
  rw [List.map_append, List.filterMap_append]
  congr 1
  by_cases h : e.field.1 = name <;> simp [h]

/-- Logging records nothing. Events and entries are kept apart, so a status is not lost or changed
by an event. -/
@[simp]
theorem held_log (ev : Event) (name : String) : (sp.log ev).held name = sp.held name :=
  rfl

/-- Closing a span records nothing, so what it held before is what can be read from it. -/
theorem held_close (name : String) : sp.close.held name = sp.held name := rfl

/-- Recording logs nothing. So recording the status of a response adds no fault to those that were
met. -/
@[simp]
theorem faults_record (e : Entry) : (sp.record e).faults = sp.faults := rfl

/-- Closing logs nothing. The faults of a span are those that it had while it was open. -/
@[simp]
theorem faults_close : sp.close.faults = sp.faults := rfl

/-- An event is a fault when its message says so, and comes behind those that were logged before. -/
theorem faults_log (ev : Event) :
    (sp.log ev).faults =
      sp.faults ++ [ev].filter fun ev =>
        ev.message = "request failed" ∨ ev.message = "request rejected" :=
  List.filter_append ..

/-! ### Spans that are open -/

/-- A span that is still open: it says which errors were met, and nothing of a response. -/
structure IsOpen (sp : Span) (task : Task) (met : List RegistryError) : Prop where
  task : sp.task = task
  closed : sp.closed = 0
  code : sp.held "http.status_code" = []
  error : .flag true ∈ sp.held "error" ↔ met ≠ []
  faults : sp.faults = met.map Event.ofError
  present : Event.abandoned ∉ sp.events

/-- A new span is open, whatever the request says of its identifiers. Those are recorded on it when
they are there. -/
theorem opened_isOpen (task : Task) (tenantId deviceId : Option String) :
    (opened task tenantId deviceId).IsOpen task [] := by
  have hheld : ∀ name, name ≠ "tenant_id" ∧ name ≠ "device_id" →
      (opened task tenantId deviceId).held name = [] := by
    rintro name ⟨htenant, hdevice⟩
    unfold held opened
    cases tenantId <;> cases deviceId <;>
      simp [Entry.field, Ne.symm htenant, Ne.symm hdevice]
  constructor
  case task => rfl
  case closed => rfl
  case code => exact hheld _ (by decide)
  case error => simp [hheld "error" (by decide)]
  case faults => rfl
  case present => exact List.not_mem_nil

/-- An event that is no fault leaves a span as open as it was. The service is asked with such an
event. -/
theorem IsOpen.log {ev : Event} (h : sp.IsOpen task met)
    (hev : ev.message ∉ ["request failed", "request rejected",
      "request abandoned before a response was produced"]) : (sp.log ev).IsOpen task met := by
  simp only [List.mem_cons, List.not_mem_nil, or_false, not_or] at hev
  obtain ⟨hfailed, hrejected, habandoned⟩ := hev
  -- Such an event only adds to the events, and none of the three is counted.
  constructor
  case task => exact h.task
  case closed => exact h.closed
  case code => exact h.code
  case error => exact h.error
  case faults =>
    rw [faults_log, h.faults]
    simp [hfailed, hrejected]
  case present =>
    unfold Span.log
    rw [List.mem_append, List.mem_singleton, not_or]
    refine ⟨h.present, ?_⟩
    rintro rfl
    exact habandoned rfl

/-- An error is put on a span behind those that were met before, and marks the span. It is one step
of a life; a list of errors is put on by this step for each. -/
theorem IsOpen.logError (h : sp.IsOpen task met) (err : RegistryError) :
    (sp.logError err).IsOpen task (met ++ [err]) := by
  have hmessage := (Event.ofError_reports err).message
  -- An error sets the mark and adds one event, and the code is left for the response.
  constructor
  case task => exact h.task
  case closed => exact h.closed
  case code =>
    have hname : Entry.error.field.1 ≠ "http.status_code" := by decide
    rw [Span.logError, held_log, held_record, if_neg hname, h.code]
    rfl
  case error =>
    have hmarked : Datum.flag true ∈ (sp.logError err).held "error" := by
      rw [Span.logError, held_log, held_record, List.mem_append]
      exact .inr List.mem_cons_self
    simp [hmarked]
  case faults =>
    rw [Span.logError, faults_log, faults_record, h.faults, List.map_append]
    cases hside : err.side <;> rw [hside] at hmessage <;> simp [hmessage]
  case present =>
    unfold Span.logError Span.log
    rw [List.mem_append, List.mem_singleton, not_or]
    exact ⟨h.present, (Event.ofError_ne_abandoned err).symm⟩

/-! ### Spans that are closed -/

/-- A response closes a span with its code, and with a mark when the code reports an error. -/
theorem finish_eq :
    sp.finish response =
      (if response.status.isError then (sp.record (.statusCode response.status.code)).record .error
        else sp.record (.statusCode response.status.code)).close :=
  rfl

/-- Without a response a span is closed with a mark, and an event says why. -/
theorem abandon_eq : sp.abandon = ((sp.record .error).log .abandoned).close := rfl

/-- Abandoning a span is no fault of the request. It has an event of its own, which reports no
error. -/
theorem faults_abandon : sp.abandon.faults = sp.faults := by
  rw [abandon_eq, faults_close, faults_log, faults_record]
  simp [Event.message]

/-- A span that was closed once, with a response, and says which errors were met. -/
structure IsAnswered (sp : Span) (task : Task) (met : List RegistryError) (response : Response) :
    Prop where
  task : sp.task = task
  closed : sp.closed = 1
  code : sp.held "http.status_code" = [.number response.status.code]
  error : .flag true ∈ sp.held "error" ↔
    met ≠ [] ∨ 400 ≤ response.status.code ∧ response.status.code ≤ 599
  faults : sp.faults = met.map Event.ofError
  present : Event.abandoned ∉ sp.events

/-- An open span that is closed with a response keeps what was met. The code of the response is
recorded once, and a mark is added if it reports an error. -/
theorem IsOpen.answered (h : sp.IsOpen task met) (response : Response) :
    (sp.finish response).IsAnswered task met response := by
  have hevents : (sp.finish response).events = sp.events := by
    rw [finish_eq]
    split <;> rfl
  -- Finishing records the status, and the mark if there is cause, and closes the span. The events
  -- stay.
  constructor
  case task =>
    rw [finish_eq]
    split <;> exact h.task
  case closed =>
    rw [finish_eq]
    split <;> exact congrArg (· + 1) h.closed
  case code =>
    rw [finish_eq]
    split <;> simp [held_close, held_record, Entry.field, h.code]
  case error =>
    rw [finish_eq, ← Status.isError_iff]
    split <;> rename_i hcode <;> simp [held_close, held_record, Entry.field, hcode, h.error]
  case faults =>
    rw [← h.faults, Span.faults, hevents]
    rfl
  case present =>
    rw [hevents]
    exact h.present

end Span

/-! ### Guards -/

namespace Guard

variable {g : Guard} {task : Task} {met logged : List RegistryError}

/-- Giving a guard up with a response hands the response back as it is. -/
theorem finish_eq (response : Response) : g.finish response = (response, g.span.finish response) :=
  rfl

/-- Giving a guard up with an error hands back the response of the error, which is logged first. -/
theorem fail_eq (err : RegistryError) :
    g.fail err = (.ofError err, (g.span.logError err).finish (.ofError err)) :=
  rfl

/-- A guard that is given up without a response abandons its span. -/
theorem release_eq (h : g.finished = false) : g.release = g.span.abandon := by
  unfold Span.abandon
  rw [← h]

/-- A guard that is still needed: no response was produced, and its span is open. -/
structure IsOpen (g : Guard) (task : Task) (met : List RegistryError) : Prop where
  unfinished : g.finished = false
  span : g.span.IsOpen task met

/-- A new guard is needed, and its span is open. It is where each of the three endings starts from.
-/
theorem opened_isOpen (task : Task) (tenantId deviceId : Option String) :
    (opened task tenantId deviceId).IsOpen task [] :=
  ⟨rfl, Span.opened_isOpen task tenantId deviceId⟩

/-- Logging an error on a guard logs it on its span. -/
theorem IsOpen.logError (h : g.IsOpen task met) (err : RegistryError) :
    (g.logError err).IsOpen task (met ++ [err]) :=
  ⟨h.unfinished, h.span.logError err⟩

/-- Errors are put on the span of a guard in their order. By induction on the errors that are still
to be logged. -/
theorem IsOpen.logErrors (h : g.IsOpen task met) (errs : List RegistryError) :
    (errs.foldl (fun g err => g.logError err) g).IsOpen task (met ++ errs) := by
  induction errs generalizing g met with
  | nil => simpa using h
  | cons err errs ih =>
    have hall := ih (h.logError err)
    rwa [List.append_assoc, List.singleton_append] at hall

/-- A way to give up a guard. -/
inductive Ending where
  | finish (response : Response)
  | fail (err : RegistryError)
  /-- Without a response. -/
  | release

/-- The response that is handed back as it is, or that an error is answered with. -/
def Ending.response? : Ending → Option Response
  | finish response => some response
  | fail err => some { status := err.status, etag := none, body := .text err.message }
  | release => none

/-- The error that is met at the end. -/
def Ending.errors : Ending → List RegistryError
  | fail err => [err]
  | finish _ | release => []

/-- Gives up a guard. What is left is the response, if one was produced, and the span. -/
def giveUp (g : Guard) : Ending → Option Response × Span
  | .finish response => (g.finish response).map some id
  | .fail err => (g.fail err).map some id
  | .release => (none, g.release)

/-- Logs errors on a guard, one after the other, and gives it up. -/
def life (g : Guard) (logged : List RegistryError) (ending : Ending) : Option Response × Span :=
  (logged.foldl (fun g err => g.logError err) g).giveUp ending

/-- What is left of a guard tells which errors were logged on it, and how it was given up. -/
structure Tells (answered : Option Response) (sp : Span) (logged : List RegistryError)
    (ending : Ending) : Prop where
  response : answered = ending.response?
  closed : sp.closed = 1
  /-- The code of the response is recorded once, and no code when there is none. -/
  code : sp.held "http.status_code" = answered.toList.map fun response =>
    .number response.status.code
  abandoned :
    (∃ ev ∈ sp.events, ev.message = "request abandoned before a response was produced") ↔
      ending = .release
  /-- A guard that is released says so once, at the end. -/
  last : ending = .release → ∃ before ev, sp.events = before ++ [ev] ∧
    ev.message = "request abandoned before a response was produced" ∧
    ∀ ev ∈ before, ev.message ≠ "request abandoned before a response was produced"
  /-- Each error is reported once, in the order in which they were met. -/
  reports : List.Forall₂ Event.Reports sp.faults (logged ++ ending.errors)
  error : .flag true ∈ sp.held "error" ↔
    logged ≠ [] ∨ (∃ err, ending = .fail err) ∨ ending = .release ∨
      ∃ response, ending = .finish response ∧
        400 ≤ response.status.code ∧ response.status.code ≤ 599

/-- A span that was closed with a response tells that its guard was not released, and which errors
were met in the end. -/
theorem tells_of_isAnswered {sp : Span} {response : Response} {ending : Ending}
    (h : sp.IsAnswered task (logged ++ ending.errors) response)
    (hresponse : ending.response? = some response) :
    Tells (some response) sp logged ending := by
  have hkept : ending ≠ .release := by
    rintro rfl
    cases hresponse
  -- A guard that answers is not released, so what is said of a release does not apply.
  constructor
  case response => exact hresponse.symm
  case closed => exact h.closed
  case code => exact h.code
  case abandoned => simp [Event.message_eq_abandoned_iff, h.present, hkept]
  case last => exact fun hreleased => absurd hreleased hkept
  case reports =>
    rw [h.faults]
    exact Event.reports_map_ofError _
  case error =>
    rw [h.error]
    cases ending with
    | finish response' =>
      obtain rfl := Option.some.inj hresponse
      simp [Ending.errors]
    | fail err => simp [Ending.errors]
    | release => exact absurd rfl hkept

/-- A guard that is given up with a response tells so. -/
theorem IsOpen.finish_tells (h : g.IsOpen task logged) (response : Response) :
    Tells (some response) (g.span.finish response) logged (.finish response) := by
  have hanswered := h.span.answered response
  rw [← List.append_nil logged] at hanswered
  exact tells_of_isAnswered hanswered rfl

/-- A guard that is given up with an error meets it first, so it is the last of the errors that are
reported. -/
theorem IsOpen.fail_tells (h : g.IsOpen task logged) (err : RegistryError) :
    Tells (some (.ofError err)) ((g.span.logError err).finish (.ofError err)) logged
      (.fail err) :=
  tells_of_isAnswered ((h.span.logError err).answered (.ofError err)) rfl

/-- A guard that is given up without a response tells so: no code is recorded, and the last event
says why. -/
theorem IsOpen.release_tells (h : g.IsOpen task logged) :
    Tells none g.span.abandon logged .release := by
  have hevents : g.span.abandon.events = g.span.events ++ [.abandoned] := rfl
  constructor
  case response => rfl
  case closed => exact congrArg (· + 1) h.span.closed
  case code => simp [Span.abandon_eq, Span.held_close, Span.held_record, Entry.field, h.span.code]
  case abandoned => simp [hevents, Event.message_eq_abandoned_iff]
  case last =>
    refine fun _ => ⟨g.span.events, .abandoned, hevents, rfl, fun ev hev hmessage => ?_⟩
    rw [Event.message_eq_abandoned_iff.1 hmessage] at hev
    exact h.span.present hev
  case reports =>
    rw [Span.faults_abandon, h.span.faults, Ending.errors, List.append_nil]
    exact Event.reports_map_ofError logged
  case error => simp [Span.abandon_eq, Span.held_close, Span.held_record, Entry.field]

/-- Whatever errors are logged on a guard and however it is given up, it closes its span once, and
what is left of it tells the errors and the way. -/
theorem life_tells (task : Task) (tenantId deviceId : Option String)
    (logged : List RegistryError) (ending : Ending) :
    Tells ((opened task tenantId deviceId).life logged ending).1
      ((opened task tenantId deviceId).life logged ending).2 logged ending := by
  have hopen := (opened_isOpen task tenantId deviceId).logErrors logged
  rw [List.nil_append] at hopen
  cases ending with
  | finish response =>
    rw [life, giveUp, finish_eq]
    exact hopen.finish_tells response
  | fail err =>
    rw [life, giveUp, fail_eq]
    exact hopen.fail_tells err
  | release =>
    rw [life, giveUp, release_eq hopen.unfinished]
    exact hopen.release_tells

example :
    ((opened .read (some "acme") none).life [.missingField "type"] .release).2.events.map
      Event.message = ["request rejected", "request abandoned before a response was produced"] :=
  rfl

end Guard

end Management

end DeviceRegistry
