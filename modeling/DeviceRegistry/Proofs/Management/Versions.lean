import DeviceRegistry.Proofs.Management.Versioned

/-!
# `DeviceRegistry.Proofs.Management.Versions`: no update is lost

Clients read the credentials of a device with their version, and replace them by asserting the
version that they have read. A request touches the service at one moment only, so serving one is a
single step; any time may pass before it and until its response arrives, and others be served
meanwhile. Main statements:

* `Reachable.invariant`: every version that was ever handed out is tied to the list that it was
  handed out with.
* `update_replaces_what_was_read`: an update that succeeds replaces exactly the list that came with
  the version it asserts; one that does not leaves everything as it was.
-/

set_option autoImplicit false

namespace DeviceRegistry.Management

variable {κ σ : Type}

/-! ### Clients at work -/

/-- Clients, of any kind and number, at one endpoint: the state of the service, the requests that
wait to be served, the exchanges so far, and those whose response has arrived. -/
structure System (κ σ : Type) where
  state : σ
  waiting : List (κ × Request)
  served : List (Exchange κ σ)
  arrived : List (Exchange κ σ)

/-- A client may replace credentials with a version that a response about the same device has
brought to it or to another client. -/
def System.MaySend (sys : System κ σ) (r : Request) : Prop :=
  r.method = "PUT" → ∃ x ∈ sys.arrived, ∃ t d v,
    x.HandsOut t d v ∧ r.tenantId = some t ∧ r.deviceId = some d ∧ r.ifMatch = some v

/-- What can happen next. -/
inductive Step (e : Endpoint σ) : System κ σ → System κ σ → Prop
  | send {sys} (client : κ) (r : Request) (h : sys.MaySend r) :
    Step e sys { sys with waiting := (client, r) :: sys.waiting }
  | serve {sys} (client : κ) (r : Request) (front back : List (κ × Request))
      (h : sys.waiting = front ++ (client, r) :: back) :
    Step e sys { sys with
      state := (e.handle r sys.state).2
      waiting := front ++ back
      served := e.exchange client r sys.state :: sys.served }
  | arrive {sys} (x : Exchange κ σ) (h : x ∈ sys.served) :
    Step e sys { sys with arrived := x :: sys.arrived }

/-- What can be reached from any state of the service without requests. -/
inductive Reachable (e : Endpoint σ) : System κ σ → Prop
  | start (s : σ) : Reachable e ⟨s, [], [], []⟩
  | step {sys sys' : System κ σ} : Reachable e sys → Step e sys sys' → Reachable e sys'

/-! ### Runs -/

namespace System

variable {e : Endpoint σ} (V : Versioned e.service) {sys sys' : System κ σ}

/-- An update did what it should: it succeeded and replaced the credentials that its version was
handed out with, which is no longer the current one, or it failed and changed nothing. -/
def IsSound (sys : System κ σ) (x : Exchange κ σ) : Prop :=
  (x.response.status.isSuccess = true ∧ ∃ t d v cs, x.request.tenantId = some t ∧
    x.request.deviceId = some d ∧ x.request.ifMatch = some v ∧
    Credential.decodeBody x.request.body = .ok cs ∧ V.Replaced x.before x.after t d cs ∧
    V.Ties sys.state t d v (fun _ => False) ∧
    ∀ y ∈ sys.served, y.HandsOut t d v →
      (V.view y.before t d).credentials = (V.view x.before t d).credentials) ∨
  (x.response.status.isSuccess = false ∧ V.view x.after = V.view x.before)

/-- What holds of all that can be reached. -/
structure Invariant (sys : System κ σ) : Prop where
  arrived : ∀ x ∈ sys.arrived, x ∈ sys.served
  waiting : ∀ p ∈ sys.waiting, sys.MaySend p.2
  /-- A version that was handed out came with the credentials, and still belongs to them. -/
  handed : ∀ x ∈ sys.served, ∀ t d v, x.HandsOut t d v →
    x.response.body =
      .json (.array (Credential.encodeAll (V.view x.before t d).credentials)) ∧
    V.Ties sys.state t d v (· = (V.view x.before t d).credentials)
  updates : ∀ x ∈ sys.served, x.request.method = "PUT" →
    sys.MaySend x.request ∧ sys.IsSound V x

/-- What may be sent may still be sent when more responses have arrived. -/
theorem MaySend.mono {r : Request} (h : sys.MaySend r)
    (hsub : ∀ x ∈ sys.arrived, x ∈ sys'.arrived) : sys'.MaySend r := by
  intro hput
  obtain ⟨x, hx, hrest⟩ := h hput
  exact ⟨x, hsub x hx, hrest⟩

/-- An update that may be sent asserts a version: one that was handed out to the client that sends
it. -/
theorem MaySend.version {r : Request} (h : sys.MaySend r) (hput : r.method = "PUT") :
    ∃ v, r.ifMatch = some v := by
  obtain ⟨x, -, t, d, v, -, -, -, hv⟩ := h hput
  exact ⟨v, hv⟩

/-- The invariant holds at the start, where nothing has been served. -/
theorem invariant_start (s : σ) : Invariant V (⟨s, [], [], []⟩ : System κ σ) where
  arrived _ hx := hx
  waiting _ hp := nomatch hp
  handed _ hx := nomatch hx
  updates _ hx := nomatch hx

/-- Sending a request keeps the invariant: it may be sent, and waits from now on. -/
theorem invariant_send {client : κ} {r : Request} (h : Invariant V sys) (hsend : sys.MaySend r) :
    Invariant V { sys with waiting := (client, r) :: sys.waiting } where
  arrived := h.arrived
  waiting p hp := by
    rcases List.mem_cons.1 hp with rfl | hp
    · exact hsend
    · exact h.waiting p hp
  handed := h.handed
  updates := h.updates

/-- The arrival of a response keeps the invariant, as it was served before. What a client has read
it has from a response that arrived, and those are all among the served ones. -/
theorem invariant_arrive {x : Exchange κ σ} (h : Invariant V sys) (hx : x ∈ sys.served) :
    Invariant V { sys with arrived := x :: sys.arrived } where
  arrived y hy := by
    rcases List.mem_cons.1 hy with rfl | hy
    · exact hx
    · exact h.arrived y hy
  waiting p hp := (h.waiting p hp).mono fun y hy => List.mem_cons_of_mem _ hy
  handed := h.handed
  updates y hy hput :=
    ⟨(h.updates y hy hput).1.mono fun z hz => List.mem_cons_of_mem _ hz, (h.updates y hy hput).2⟩

/-- What an update did stays sound when another request is served. The version that it asserted is
used up, so what the other request hands out is another one. -/
theorem IsSound.served {x y : Exchange κ σ} {waiting : List (κ × Request)} {s' : σ}
    (h : sys.IsSound V x) (hs : V.Changed sys.state s')
    (hy : ∀ t d v, y.HandsOut t d v → v = (V.view sys.state t d).version) :
    IsSound V { sys with state := s', waiting := waiting, served := y :: sys.served } x := by
  rcases h with ⟨hsuccess, t, d, v, cs, ht, hd, hv, hbody, hreplaced, hgone, hread⟩ | hfailed
  · refine .inl ⟨hsuccess, t, d, v, cs, ht, hd, hv, hbody, hreplaced, hgone.changed V hs, ?_⟩
    intro z hz hout
    -- The new exchange hands out the current version, which is not the one that was replaced.
    rcases List.mem_cons.1 hz with rfl | hz
    · exact (hgone.2 (hy t d v hout).symm).elim
    · exact hread z hz hout
  · exact .inr hfailed

/-- An update that is served does what it should. Whatever handed out its version is tied to the
credentials that are replaced. -/
theorem isSound_serve {client : κ} {r : Request} {waiting : List (κ × Request)}
    (h : Invariant V sys) (hput : r.method = "PUT") {v : Version} (hv : r.ifMatch = some v) :
    IsSound V { sys with
      state := (e.handle r sys.state).2
      waiting := waiting
      served := e.exchange client r sys.state :: sys.served } (e.exchange client r sys.state) := by
  rcases serve_put V (s := sys.state) hput hv with
    ⟨hsuccess, t, d, cs, ht, hd, hbody, hcurrent, hreplaced⟩ | ⟨hfailed, hsame⟩
  · have hused : (V.view sys.state t d).used v := by
      rw [hcurrent]
      exact V.used_version sys.state t d
    -- The asserted version was the current one, so by the invariant whatever came with it is what
    -- the service held until now. From now on it is never the current one again.
    refine .inl ⟨hsuccess, t, d, v, cs, ht, hd, hv, hbody, hreplaced, ?_, ?_⟩
    · refine ⟨hreplaced.used v hused, fun hversion => hreplaced.fresh ?_⟩
      rw [hversion]
      exact hused
    · intro y hy hout
      rcases List.mem_cons.1 hy with rfl | hy
      · exact absurd (hput.symm.trans hout.1) (by decide)
      · exact ((h.handed y hy t d v hout).2.2 hcurrent.symm).symm
  · exact .inr ⟨hfailed, hsame⟩

/-- Serving a request keeps the invariant. What was handed out stays tied to its credentials; what
this request hands out is the current version; and an update is sound, as are those before it. -/
theorem invariant_serve {client : κ} {r : Request} {front back : List (κ × Request)}
    (h : Invariant V sys) (hwaiting : sys.waiting = front ++ (client, r) :: back) :
    Invariant V { sys with
      state := (e.handle r sys.state).2
      waiting := front ++ back
      served := e.exchange client r sys.state :: sys.served } := by
  have hsend : sys.MaySend r := h.waiting (client, r) (by rw [hwaiting]; simp)
  have hchanged : V.Changed sys.state (e.handle r sys.state).2 :=
    serve_changed V hsend.version
  have hnew : ∀ t d v, (e.exchange client r sys.state).HandsOut t d v →
      v = (V.view sys.state t d).version ∧ (e.exchange client r sys.state).response.body =
        .json (.array (Credential.encodeAll (V.view sys.state t d).credentials)) := by
    intro t d v hout
    exact (serve_get V client hout.1).2 t d v hout
  constructor
  · intro x hx
    exact List.mem_cons_of_mem _ (h.arrived x hx)
  · intro p hp
    have hmem : p ∈ sys.waiting := by
      rw [hwaiting]
      rcases List.mem_append.1 hp with hp | hp
      · exact List.mem_append_left _ hp
      · exact List.mem_append_right _ (List.mem_cons_of_mem _ hp)
    exact h.waiting p hmem
  · intro x hx t d v hout
    rcases List.mem_cons.1 hx with rfl | hx
    -- What is handed out now is tied to what the service holds, and what was before stays so.
    · obtain ⟨hversion, hbody⟩ := hnew t d v hout
      refine ⟨hbody, Versioned.Ties.changed V (s := sys.state) ?_ hchanged⟩
      rw [hversion]
      exact ⟨V.used_version sys.state t d, fun _ => rfl⟩
    · obtain ⟨hbody, hties⟩ := h.handed x hx t d v hout
      exact ⟨hbody, hties.changed V hchanged⟩
  · intro x hx hput
    rcases List.mem_cons.1 hx with rfl | hx
    · obtain ⟨v, hv⟩ := hsend.version hput
      exact ⟨hsend, isSound_serve V h hput hv⟩
    · obtain ⟨hsent, hsound⟩ := h.updates x hx hput
      exact ⟨hsent, hsound.served V hchanged fun t d v hout => (hnew t d v hout).1⟩

end System

section

variable {e : Endpoint σ} (V : Versioned e.service) {sys : System κ σ}

/-- The invariant holds of every run, by induction on its steps. -/
theorem Reachable.invariant (h : Reachable e sys) : System.Invariant V sys := by
  induction h with
  | start s => exact System.invariant_start V s
  | step hreachable hstep ih =>
    cases hstep with
    | send client r hsend => exact System.invariant_send V ih hsend
    | serve client r front back hwaiting => exact System.invariant_serve V ih hwaiting
    | arrive x hx => exact System.invariant_arrive V ih hx

/-- No update is lost. An update that succeeds asserts a version that a response has brought, and
replaces exactly the credentials whose encoding every response with that version has, by exactly
those of its body. An update that does not succeed leaves the credentials and versions of all
devices as they were. -/
theorem update_replaces_what_was_read (h : Reachable e sys) {x : Exchange κ σ} (hx : x ∈ sys.served)
    (hput : x.request.method = "PUT") :
    (x.response.status.isSuccess = true → ∃ t d v cs,
      x.request.tenantId = some t ∧ x.request.deviceId = some d ∧ x.request.ifMatch = some v ∧
      (∃ y ∈ sys.arrived, y.HandsOut t d v) ∧
      (∀ y ∈ sys.served, y.HandsOut t d v →
        y.response.body =
          .json (.array (Credential.encodeAll (V.view x.before t d).credentials)) ∧
        (V.view y.before t d).credentials = (V.view x.before t d).credentials) ∧
      Credential.decodeBody x.request.body = .ok cs ∧ (V.view x.after t d).credentials = cs ∧
      ∀ t' d', (t', d') ≠ (t, d) → V.view x.after t' d' = V.view x.before t' d') ∧
    (x.response.status.isSuccess = false →
      ∀ t d, (V.view x.after t d).credentials = (V.view x.before t d).credentials ∧
        (V.view x.after t d).version = (V.view x.before t d).version) := by
  have hinvariant := h.invariant V
  obtain ⟨hsent, hsound⟩ := hinvariant.updates x hx hput
  -- The invariant says of each update that was served which of the two it was.
  constructor
  · intro hsuccess
    rcases hsound with
      ⟨-, t, d, v, cs, ht, hd, hv, hbody, hreplaced, -, hread⟩ | ⟨hfailed, -⟩
    · refine ⟨t, d, v, cs, ht, hd, hv, ?_, fun y hy hout => ?_, hbody, hreplaced.credentials,
        hreplaced.keeps⟩
      -- The client had its version from an answer that arrived, for the same device.
      · obtain ⟨y, hy, t', d', v', hout, ht', hd', hv'⟩ := hsent hput
        obtain rfl : t = t' := Option.some.inj (ht.symm.trans ht')
        obtain rfl : d = d' := Option.some.inj (hd.symm.trans hd')
        obtain rfl : v = v' := Option.some.inj (hv.symm.trans hv')
        exact ⟨y, hy, hout⟩
      · have hsame := hread y hy hout
        rw [← hsame]
        exact ⟨(hinvariant.handed y hy t d v hout).1, rfl⟩
    · rw [hfailed] at hsuccess
      cases hsuccess
  · intro hfailure t d
    rcases hsound with ⟨hsuccess, -⟩ | ⟨-, hview⟩
    · rw [hfailure] at hsuccess
      cases hsuccess
    · rw [hview]
      exact ⟨rfl, rfl⟩

end

/-! ### A race -/

/-- An endpoint in front of shelves. -/
def shelves : Endpoint Shelf := { service := Shelf.service }

/-- A device with one credential, which was replaced seven times. -/
def sevenTimes : Shelf := fun _ _ =>
  ([{ info := { authId := "sensor" }, secrets := .password [{ plain := some "1234" }] }], 7)

/-- Removes all credentials of the device, whose version is still the same. -/
def clear : Request := .update "t" "d" [0x5B, 0x5D] (some (Shelf.versionAt 7))

/-- A client reads. -/
def looked : Exchange Bool Shelf := shelves.exchange true (.read "t" "d") sevenTimes

/-- The client removes all credentials. -/
def cleared : Exchange Bool Shelf := shelves.exchange true clear looked.after

/-- Another one tries the same. -/
def clearedAgain : Exchange Bool Shelf := shelves.exchange false clear cleared.after

/-- The two of them at work. -/
def race : System Bool Shelf where
  state := clearedAgain.after
  waiting := []
  served := [clearedAgain, cleared, looked]
  arrived := [looked]

/-- The race is a run: a client reads, both send the same update once the response has arrived, and
both are served. -/
theorem race_reachable : Reachable shelves race := by
  have hmay : ∀ sys : System Bool Shelf, looked ∈ sys.arrived → sys.MaySend clear := by
    intro sys harrived _
    exact ⟨looked, harrived, "t", "d", Shelf.versionAt 7, ⟨rfl, rfl, rfl, rfl, rfl⟩, rfl, rfl, rfl⟩
  have hread := (Reachable.start (e := shelves) sevenTimes).step (.send true (.read "t" "d") nofun)
  have hlooked := (hread.step (.serve true _ [] [] rfl)).step (.arrive looked (.head _))
  have hsent := (hlooked.step (.send false clear (hmay _ (.head _)))).step
    (.send true clear (hmay _ (.head _)))
  exact (hsent.step (.serve true _ [] _ rfl)).step (.serve false _ [] [] rfl)

/-- Two clients race: one replaces what it has read, and the other changes nothing. Both assert the
version that the first response had, and the shelf has a new one after the first of them. -/
theorem update_replaces_what_was_read_race :
    Reachable shelves race ∧ cleared ∈ race.served ∧ clearedAgain ∈ race.served ∧
    cleared.request.method = "PUT" ∧ clearedAgain.request.method = "PUT" ∧
    cleared.response.status.code = 204 ∧ clearedAgain.response.status.code = 412 ∧
    (∀ y ∈ race.served, y.HandsOut "t" "d" (Shelf.versionAt 7) →
      y.response.body = .json (.array (Credential.encodeAll (cleared.before "t" "d").1))) ∧
    (cleared.after "t" "d").1 = [] ∧
    ∀ t d, (clearedAgain.after t d).1 = (clearedAgain.before t d).1 := by
  have hfirst : cleared ∈ race.served := .tail _ (.head _)
  have hsecond : clearedAgain ∈ race.served := .head _
  -- The first of the two replaces what both have read, and the second one finds it replaced.
  obtain ⟨t, d, v, cs, ht, hd, hv, -, hread, hbody, hcs, -⟩ :=
    (update_replaces_what_was_read Shelf.versioned race_reachable hfirst rfl).1 rfl
  obtain rfl : "t" = t := Option.some.inj ht
  obtain rfl : "d" = d := Option.some.inj hd
  obtain rfl : Shelf.versionAt 7 = v := Option.some.inj hv
  obtain rfl : [] = cs := Except.ok.inj hbody
  have hkept := (update_replaces_what_was_read Shelf.versioned race_reachable hsecond rfl).2 rfl
  exact ⟨race_reachable, hfirst, hsecond, rfl, rfl, rfl, rfl, fun y hy hout => (hread y hy hout).1,
    hcs, fun t d => (hkept t d).1⟩

end DeviceRegistry.Management
