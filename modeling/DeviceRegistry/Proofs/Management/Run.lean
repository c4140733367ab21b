import DeviceRegistry.Proofs.Management.Handle

/-!
# `DeviceRegistry.Proofs.Management.Run`: one request after the other

A run serves requests in order, each from the state that the one before has left. Its `history` says
what every request came to. Main statements:

* `mapM_handle`: the history tells the responses of a run and the state that is left.
* `calls_eq`: it tells all calls that the service receives, in order.
* `exists_of_history_eq`: each request is served from the state that those before it leave.
-/

set_option autoImplicit false

namespace DeviceRegistry.Management.Endpoint

variable {σ : Type} (e : Endpoint σ)

/-- The same endpoint in front of a service that keeps the calls made of it. -/
def recorded : Endpoint (σ × List Call) := { e with service := e.service.recorded }

/-- The calls that the service receives in a run. -/
def calls (rs : List Request) (s : σ) : List Call := ((rs.mapM e.recorded.handle) (s, [])).2.2

/-- The requests of a run, each with what it comes to. -/
def history : List Request → σ → List (Request × Effect σ)
  | [], _ => []
  | r :: rs, s => (r, e.watched r s) :: history rs (e.watched r s).state

/-- The state that a run leaves. -/
def after : List Request → σ → σ
  | [], s => s
  | r :: rs, s => after rs (e.watched r s).state

/-! ### One request -/

/-- Calls are added to those that were recorded before, and recording changes nothing else. So a
service that records can stand for the service itself, when calls are counted. -/
theorem recorded_handle (r : Request) (s : σ) (log : List Call) :
    (e.recorded.handle r (s, log)).2 = ((e.watched r s).state, log ++ (e.watched r s).calls) := by
  unfold watched recorded
  -- Wherever the endpoint stops, the service has been called at most once, and the log has that
  -- call.
  by_cases hget : r.method = "GET"
  · rw [handle_get hget, read]
    cases checkIds r.tenantId r.deviceId with
    | error err => exact congrArg (Prod.mk s) (List.append_nil log).symm
    | ok ids => rfl
  · by_cases hput : r.method = "PUT"
    · rw [handle_put hput, update]
      cases checkIds r.tenantId r.deviceId with
      | error err => exact congrArg (Prod.mk s) (List.append_nil log).symm
      | ok ids =>
        dsimp only
        cases itemsOf e.config.maxPayloadSize.toNat r.body with
        | error err => exact congrArg (Prod.mk s) (List.append_nil log).symm
        | ok vs =>
          dsimp only
          cases Credential.decodeAll vs with
          | error err => exact congrArg (Prod.mk s) (List.append_nil log).symm
          | ok cs => rfl
    · rw [handle_unknown hget hput, handle_unknown hget hput, List.append_nil]

/-! ### A run -/

/-- The first request of a run is served, and the others from the state that it leaves. -/
theorem mapM_handle_cons {τ : Type} (e : Endpoint τ) (r : Request) (rs : List Request) (s : τ) :
    ((r :: rs).mapM e.handle) s =
      ((e.handle r s).1 :: ((rs.mapM e.handle) (e.handle r s).2).1,
        ((rs.mapM e.handle) (e.handle r s).2).2) := by
  rw [List.mapM_cons]
  rfl

/-- A history tells the responses of a run, and the state that it leaves. So what is shown of
histories holds of the program, which serves one request after the other. -/
theorem mapM_handle (rs : List Request) (s : σ) :
    ((rs.mapM e.handle) s).1.map Answer.response = (e.history rs s).map (·.2.response) ∧
      ((rs.mapM e.handle) s).2 = e.after rs s := by
  induction rs generalizing s with
  | nil => exact ⟨rfl, rfl⟩
  | cons r rs ih =>
    obtain ⟨hresponse, hstate⟩ := watched_eq_handle (e := e) (r := r) (s := s)
    obtain ⟨hresponses, hafter⟩ := ih (e.watched r s).state
    rw [mapM_handle_cons, ← hstate, history, after, List.map_cons, List.map_cons, hresponses,
      hresponse]
    exact ⟨rfl, hafter⟩

/-- A history tells the calls that the service receives, in their order. Each request adds those
that it makes. -/
theorem calls_eq (rs : List Request) (s : σ) :
    e.calls rs s = (e.history rs s).flatMap (·.2.calls) := by
  have hlog : ∀ (s : σ) (log : List Call), ((rs.mapM e.recorded.handle) (s, log)).2.2 =
      log ++ (e.history rs s).flatMap (·.2.calls) := by
    induction rs with
    | nil => exact fun s log => (List.append_nil log).symm
    | cons r rs ih =>
      intro s log
      rw [mapM_handle_cons, recorded_handle, history, List.flatMap_cons, ← List.append_assoc]
      exact ih _ _
  exact hlog s []

/-- A run in two parts comes to what the parts come to, the second one from the state that the first
has left. -/
theorem history_append (rs rs' : List Request) (s : σ) :
    e.history (rs ++ rs') s = e.history rs s ++ e.history rs' (e.after rs s) := by
  induction rs generalizing s with
  | nil => rfl
  | cons r rs ih => rw [List.cons_append, history, ih, history, after, List.cons_append]

/-- A request of a run is served from the state that the requests before it leave, and the requests
behind it from the one that it leaves. The induction is on what came before. -/
theorem exists_of_history_eq {rs : List Request} {s : σ} {front back : List (Request × Effect σ)}
    {x : Request × Effect σ} (h : e.history rs s = front ++ x :: back) :
    ∃ before behind, rs = before ++ x.1 :: behind ∧ e.history before s = front ∧
      x.2 = e.watched x.1 (e.after before s) ∧ e.history behind x.2.state = back := by
  -- The exchanges in front are those of the requests in front, in the state from which each of them
  -- was met.
  induction front generalizing rs s with
  | nil =>
    cases rs with
    | nil => cases h
    | cons r rs =>
      cases h
      exact ⟨[], rs, rfl, rfl, rfl, rfl⟩
  | cons y front ih =>
    cases rs with
    | nil => cases h
    | cons r rs =>
      obtain ⟨hy, hrest⟩ := List.cons.inj h
      obtain ⟨before, behind, rfl, hfront, hx, hback⟩ := ih hrest
      refine ⟨r :: before, behind, rfl, ?_, hx, hback⟩
      rw [history, hy, hfront]

/-- What a request of a run came to is what it comes to from some state. -/
theorem exists_of_mem_history {rs : List Request} {s : σ} {x : Request × Effect σ}
    (h : x ∈ e.history rs s) : x.1 ∈ rs ∧ ∃ s', x.2 = e.watched x.1 s' := by
  obtain ⟨front, back, hsplit⟩ := List.append_of_mem h
  obtain ⟨before, behind, rfl, -, hx, -⟩ := e.exists_of_history_eq hsplit
  exact ⟨List.mem_append_right _ List.mem_cons_self, _, hx⟩

end DeviceRegistry.Management.Endpoint
