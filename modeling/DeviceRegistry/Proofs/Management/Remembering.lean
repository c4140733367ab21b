import DeviceRegistry.Proofs.Credential.Body
import DeviceRegistry.Proofs.Management.Run

/-!
# `DeviceRegistry.Proofs.Management.Remembering`: reading what was written

A service may remember the credentials of the latest update and tell them to every read. Main
statements:

* `Remembering`: what is assumed of such a service. A `Notepad` is one.
* `reads_iff`, `updates_iff`: which requests reach the service.
* `latest_of_updates`, `latest_of_not_updates`: what one request makes of the latest credentials.
* `lastUpdate_after`: after a run the service holds the credentials of the last update of its
  history.
* `takenBack_history`: what tells credentials can be sent back as it is.
* `history_tells_last`: every read of a run tells the credentials of the last update.
-/

set_option autoImplicit false

namespace DeviceRegistry.Management

open DeviceRegistry.Json (Value)

variable {σ : Type}

/-! ### Services that remember the latest update -/

/-- A service that remembers the credentials of the latest update, whatever device they were for and
whatever it said, and tells them to every read. -/
structure Remembering (service : Service σ) where
  latest : σ → Option (List Credential)
  read_outcome : ∀ s t d, ∃ version, (service.read t d s).1 = .ok ⟨200, latest s, version⟩
  read_keeps : ∀ s t d, latest (service.read t d s).2 = latest s
  update_remembers : ∀ s t d cs v, latest (service.update t d cs v s).2 = some cs

/-- The state of the simplest such service: the credentials of the latest update. -/
abbrev Notepad := Option (List Credential)

namespace Notepad

/-- The service itself. -/
def service : Service Notepad where
  read _ _ s := (.ok ⟨200, s, none⟩, s)
  update _ _ cs _ _ := (.ok ⟨204, none, none⟩, some cs)

/-- The service remembers the latest update. -/
def remembering : Remembering service where
  latest s := s
  read_outcome _ _ _ := ⟨none, rfl⟩
  read_keeps _ _ _ := rfl
  update_remembers _ _ _ _ _ := rfl

end Notepad

namespace Endpoint

/-! ### Histories -/

/-- A request says with proper identifiers which device it is about. -/
def NamesDevice (r : Request) : Prop :=
  (∃ t, r.tenantId = some t ∧ IsId t) ∧ ∃ d, r.deviceId = some d ∧ IsId d

/-- A request asked the service for credentials. -/
def Reads (x : Request × Effect σ) : Prop :=
  x.1.method = "GET" ∧ ∃ t d, .read t d ∈ x.2.calls

/-- A request handed credentials to the service. -/
def Updates (x : Request × Effect σ) : Prop :=
  x.1.method = "PUT" ∧ ∃ t d cs v, .update t d cs v ∈ x.2.calls

/-- A request was refused before the service was asked: one to replace, or one with a method that
the endpoint does not know. -/
def Refused (x : Request × Effect σ) : Prop :=
  (x.1.method = "PUT" ∧ x.2.calls = []) ∨ (x.1.method ≠ "GET" ∧ x.1.method ≠ "PUT")

/-- The credentials in the body of the last update of a history, none when there is no update. -/
def LastUpdate (past : List (Request × Effect σ)) (cs : List Credential) : Prop :=
  (∃ front x back, past = front ++ x :: back ∧ Updates x ∧
    Credential.decodeBody x.1.body = .ok cs ∧ ∀ y ∈ back, ¬ Updates y) ∨
  ((∀ y ∈ past, ¬ Updates y) ∧ cs = [])

variable {past : List (Request × Effect σ)} {x : Request × Effect σ} {cs : List Credential}

/-- A request that updates is the last update when it comes last. -/
theorem LastUpdate.of_updates (hx : Updates x) (hbody : Credential.decodeBody x.1.body = .ok cs) :
    LastUpdate (past ++ [x]) cs :=
  .inl ⟨past, x, [], rfl, hx, hbody, nofun⟩

/-- A request that does not update leaves the last update what it was. -/
theorem LastUpdate.of_not_updates (h : LastUpdate past cs) (hx : ¬ Updates x) :
    LastUpdate (past ++ [x]) cs := by
  rcases h with ⟨front, y, back, rfl, hy, hbody, hback⟩ | ⟨hpast, rfl⟩
  · refine .inl ⟨front, y, back ++ [x], by rw [List.append_assoc, List.cons_append], hy, hbody, ?_⟩
    rw [List.forall_mem_append]
    exact ⟨hback, by simpa using hx⟩
  · refine .inr ⟨?_, rfl⟩
    rw [List.forall_mem_append]
    exact ⟨hpast, by simpa using hx⟩

/-- The credentials of the last update are those of some body. An empty array is the body of no
credentials, in case there was no update. -/
theorem LastUpdate.exists_body (h : LastUpdate past cs) :
    ∃ body, Credential.decodeBody body = .ok cs := by
  rcases h with ⟨front, x, back, -, -, hbody, -⟩ | ⟨-, rfl⟩
  · exact ⟨_, hbody⟩
  · exact ⟨Text.bytes "[]", rfl⟩

variable {e : Endpoint σ} (R : Remembering e.service) {r : Request} {s : σ}

/-! ### One request -/

/-- A request to read reaches the service when it names a device. -/
theorem reads_iff : Reads (r, e.watched r s) ↔ r.method = "GET" ∧ NamesDevice r := by
  constructor
  · rintro ⟨hget, t, d, hcall⟩
    obtain ⟨-, ht, hd⟩ := mem_calls_read_iff.1 hcall
    exact ⟨hget, ⟨t, ht⟩, ⟨d, hd⟩⟩
  · rintro ⟨hget, ⟨t, ht⟩, ⟨d, hd⟩⟩
    exact ⟨hget, t, d, mem_calls_read_iff.2 ⟨hget, ht, hd⟩⟩

/-- A request to replace reaches the service when it names a device and its body is not too long and
can be decoded. -/
theorem updates_iff : Updates (r, e.watched r s) ↔ r.method = "PUT" ∧ NamesDevice r ∧
    r.body.length ≤ e.config.maxPayloadSize.toNat ∧
      ∃ cs, Credential.decodeBody r.body = .ok cs := by
  constructor
  · rintro ⟨hput, t, d, cs, v, hcall⟩
    obtain ⟨-, ht, hd, -, hsize, hdecode⟩ := mem_calls_update_iff.1 hcall
    exact ⟨hput, ⟨⟨t, ht⟩, ⟨d, hd⟩⟩, hsize, cs, hdecode⟩
  · rintro ⟨hput, ⟨⟨t, ht⟩, ⟨d, hd⟩⟩, hsize, cs, hdecode⟩
    exact ⟨hput, t, d, cs, _, mem_calls_update_iff.2 ⟨hput, ht, hd, rfl, hsize, hdecode⟩⟩

/-- An update leaves the credentials of its body, whatever the service said to it. -/
theorem latest_of_updates (h : Updates (r, e.watched r s)) :
    ∃ cs, Credential.decodeBody r.body = .ok cs ∧ R.latest (e.watched r s).state = some cs := by
  obtain ⟨hput, ⟨⟨t, ht⟩, ⟨d, hd⟩⟩, hsize, cs, hdecode⟩ := updates_iff.1 h
  obtain ⟨-, hstate, -⟩ :=
    watched_update (e := e) (s := s) hput (checkIds_eq_ok ht hd) ⟨hsize, hdecode⟩
  exact ⟨cs, hdecode, by rw [hstate, R.update_remembers]⟩

/-- Any other request leaves the credentials that were there, whether it was refused or read. -/
theorem latest_of_not_updates (h : ¬ Updates (r, e.watched r s)) :
    R.latest (e.watched r s).state = R.latest s := by
  rcases e.watched_cases r s with ⟨t, d, -, -, -, hstate⟩ |
    ⟨t, d, cs, hput, -, -, hcalls, -⟩ | ⟨-, hstate⟩
  · rw [hstate, R.read_keeps]
  · refine absurd ⟨hput, t, d, cs, r.ifMatch, ?_⟩ h
    rw [hcalls]
    exact List.mem_singleton_self _
  · rw [hstate]

/-- A read tells the credentials that are there, in the encoding that all responses use. -/
theorem tells_latest (h : Reads (r, e.watched r s)) :
    (e.watched r s).response.status.code = 200 ∧ (e.watched r s).response.body =
      .json (.array (Credential.encodeAll ((R.latest s).getD []))) := by
  obtain ⟨hget, ⟨t, ht⟩, ⟨d, hd⟩⟩ := reads_iff.1 h
  obtain ⟨-, -, htells⟩ := watched_read (e := e) (s := s) hget (checkIds_eq_ok ht hd)
  obtain ⟨version, houtcome⟩ := R.read_outcome s t d
  rw [houtcome] at htells
  exact ⟨htells.1, htells.2.1⟩

/-- A refused request leaves the state of the service alone, as the service is not asked. -/
theorem state_of_refused (h : Refused (r, e.watched r s)) : (e.watched r s).state = s := by
  rcases e.watched_cases r s with ⟨t, d, hget, -⟩ | ⟨t, d, cs, hput, -, -, hcalls, -⟩ | ⟨-, hstate⟩
  · rcases h with ⟨hput, -⟩ | ⟨hnot, -⟩
    · exact absurd (hget.symm.trans hput) (by decide)
    · exact absurd hget hnot
  · rcases h with ⟨-, hnone⟩ | ⟨-, hnot⟩
    · cases hcalls.symm.trans hnone
    · exact absurd hput hnot
  · exact hstate

/-! ### Runs -/

/-- After a run the service holds the credentials of the last update, be it of the run or of what
was before. The induction is on the requests; what came before grows by each of them. -/
theorem lastUpdate_after (rs : List Request)
    (h : LastUpdate past ((R.latest s).getD [])) :
    LastUpdate (past ++ e.history rs s) ((R.latest (e.after rs s)).getD []) := by
  induction rs generalizing past s with
  | nil =>
    rw [history, List.append_nil]
    exact h
  | cons r rs ih =>
    -- What came before grows by this request, whatever it came to.
    have hstep : LastUpdate (past ++ [(r, e.watched r s)])
        ((R.latest (e.watched r s).state).getD []) := by
      by_cases hupdates : Updates (r, e.watched r s)
      · obtain ⟨cs, hbody, hlatest⟩ := latest_of_updates R hupdates
        rw [hlatest]
        exact .of_updates hupdates hbody
      · rw [latest_of_not_updates R hupdates]
        exact h.of_not_updates hupdates
    have hrest := ih hstep
    rw [List.append_assoc] at hrest
    exact hrest

/-- A run without an update leaves the credentials that were there. -/
theorem latest_after (rs : List Request) (h : ∀ x ∈ e.history rs s, ¬ Updates x) :
    R.latest (e.after rs s) = R.latest s := by
  induction rs generalizing s with
  | nil => rfl
  | cons r rs ih =>
    rw [history, List.forall_mem_cons] at h
    rw [after, ih h.2, latest_of_not_updates R h.1]

/-- A request sends the body of a response back, to replace the credentials of a device. -/
structure SendsBack (e : Endpoint σ) (response : Response) (r : Request) (t d : String) :
    Prop where
  method : r.method = "PUT"
  tenant : r.tenantId = some t ∧ IsId t
  device : r.deviceId = some d ∧ IsId d
  body : r.body = Text.bytes response.body.content
  size : r.body.length ≤ e.config.maxPayloadSize.toNat

/-- The service is handed the same credentials again when a response that tells them is sent back,
and a read then finds the same body, if no other update comes between. -/
def TakenBack (e : Endpoint σ) (response : Response) (behind : List (Request × Effect σ))
    (cs : List Credential) : Prop :=
  ∀ between y rest t d, behind = between ++ y :: rest → SendsBack e response y.1 t d →
    y.2.calls = [.update t d cs y.1.ifMatch] ∧
    ∀ quiet z later, rest = quiet ++ z :: later → (∀ w ∈ quiet, ¬ Updates w) → Reads z →
      z.2.response.body = response.body

/-- A read tells the credentials of the last update before it, and can be sent back when all numbers
in what it tells are whole. -/
structure TellsLast (e : Endpoint σ) (past : List (Request × Effect σ)) (response : Response)
    (behind : List (Request × Effect σ)) (cs : List Credential) : Prop where
  last : LastUpdate past cs
  status : response.status.code = 200
  body : response.body = .json (.array (Credential.encodeAll cs))
  sentBack : (Value.array (Credential.encodeAll cs)).IsWhole → TakenBack e response behind cs

include R in
/-- What tells credentials can be sent back as it is. Its body is the text of an array that is
decoded to the same credentials, so the service is handed them again, and a read without an update
in between tells them again. -/
theorem takenBack_history {response : Response} (hlast : LastUpdate past cs)
    (hbody : response.body = .json (.array (Credential.encodeAll cs)))
    (hwhole : (Value.array (Credential.encodeAll cs)).IsWhole) (rs : List Request) :
    TakenBack e response (e.history rs s) cs := by
  intro between y rest t d hbehind hy
  obtain ⟨before, behind', -, -, hserved, hrest⟩ := e.exists_of_history_eq hbehind
  -- The body is the text of the credentials, which are read back from it.
  have hdecode : Credential.decodeBody y.1.body = .ok cs := by
    obtain ⟨body, hread⟩ := hlast.exists_body
    rw [hy.body, hbody]
    exact Credential.decodeBody_encodeAll hread hwhole
  obtain ⟨hcalls, hstate, -⟩ := watched_update (e := e) (s := e.after before s) hy.method
    (checkIds_eq_ok hy.tenant hy.device) ⟨hy.size, hdecode⟩
  rw [← hserved] at hcalls hstate
  refine ⟨hcalls, fun quiet z later hsplit hquiet hz => ?_⟩
  rw [hsplit] at hrest
  obtain ⟨before', behind'', -, hbefore, hserved', -⟩ := e.exists_of_history_eq hrest
  -- They are still there when they are read, as nothing was handed to the service since.
  have hlatest : R.latest (e.after before' y.2.state) = some cs := by
    rw [latest_after R before' (hbefore ▸ hquiet), hstate, R.update_remembers]
  have hreads : Reads (z.1, e.watched z.1 (e.after before' y.2.state)) := hserved' ▸ hz
  rw [hserved', (tells_latest R hreads).2, hlatest, hbody]
  rfl

variable {rs : List Request} {behind : List (Request × Effect σ)}

include R in
/-- A read of a run tells the credentials of the last update before it. The history splits where the
run does, so the read finds what the requests before it leave. -/
theorem exists_tellsLast (hstart : R.latest s = none)
    (h : e.history rs s = past ++ x :: behind) (hx : Reads x) :
    ∃ cs, TellsLast e past x.2.response behind cs := by
  -- The history splits where the run does, so the read finds what the requests before it leave.
  obtain ⟨before, after, -, hpast, hserved, hbehind⟩ := e.exists_of_history_eq h
  have hreads : Reads (x.1, e.watched x.1 (e.after before s)) := hserved ▸ hx
  obtain ⟨hstatus, hbody⟩ := tells_latest R hreads
  rw [← hserved] at hstatus hbody
  have hlast : LastUpdate past ((R.latest (e.after before s)).getD []) := by
    have hnone : LastUpdate ([] : List (Request × Effect σ)) ((R.latest s).getD []) := by
      rw [hstart]
      exact .inr ⟨nofun, rfl⟩
    have hrun := lastUpdate_after R before hnone
    rwa [List.nil_append, hpast] at hrun
  refine ⟨_, hlast, hstatus, hbody, fun hwhole => ?_⟩
  rw [← hbehind]
  exact takenBack_history R hlast hbody hwhole after

/-- A refused request of a run says why, and without it the others come to the same, since each of
them is served from the same state. -/
theorem history_of_refused (h : e.history rs s = past ++ x :: behind) (hx : Refused x) :
    (x.1.method = "PUT" → x.2.response.status.code = 400 ∨ x.2.response.status.code = 413) ∧
    ∃ before after, rs = before ++ x.1 :: after ∧
      e.history (before ++ after) s = past ++ behind := by
  obtain ⟨before, after, hrs, hpast, hserved, hbehind⟩ := e.exists_of_history_eq h
  have hrefused : Refused (x.1, e.watched x.1 (e.after before s)) := hserved ▸ hx
  have hstate := state_of_refused hrefused
  rw [← hserved] at hstate
  refine ⟨fun hput => ?_, before, after, hrs, ?_⟩
  · rcases hx with ⟨-, hcalls⟩ | ⟨-, hnot⟩
    · rw [hserved] at hcalls ⊢
      exact status_of_refused hput hcalls
    · exact absurd hput hnot
  · rw [e.history_append, hpast, ← hbehind, hstate]

/-- In every run in front of a service that remembers the latest update, and that was given none
before, each request to read that names a device tells the credentials of the last update before it,
or none. What it tells can be sent back as it is. A refused request changes nothing: without it the
others come to the same. -/
theorem history_tells_last (e : Endpoint σ) (R : Remembering e.service) (rs : List Request) (s : σ)
    (hstart : R.latest s = none) :
    ((rs.mapM e.handle) s).1.map Answer.response = (e.history rs s).map (·.2.response) ∧
    ∀ past x behind, e.history rs s = past ++ x :: behind →
      (Reads x ↔ x.1.method = "GET" ∧ NamesDevice x.1) ∧
      (Updates x ↔ x.1.method = "PUT" ∧ NamesDevice x.1 ∧
        x.1.body.length ≤ e.config.maxPayloadSize.toNat ∧
        ∃ cs, Credential.decodeBody x.1.body = .ok cs) ∧
      (Reads x → ∃ cs, TellsLast e past x.2.response behind cs) ∧
      (Refused x →
        (x.1.method = "PUT" → x.2.response.status.code = 400 ∨ x.2.response.status.code = 413) ∧
        ∃ before after, rs = before ++ x.1 :: after ∧
          e.history (before ++ after) s = past ++ behind) := by
  refine ⟨(e.mapM_handle rs s).1, fun past x behind h => ?_⟩
  obtain ⟨before, -, -, -, hserved, -⟩ := e.exists_of_history_eq h
  -- An exchange of the history is the request with what came of it in the state it met.
  have hx : x = (x.1, e.watched x.1 (e.after before s)) := Prod.ext rfl hserved
  refine ⟨?_, ?_, exists_tellsLast R hstart h, history_of_refused h⟩
  · rw [hx]
    exact reads_iff
  · rw [hx]
    exact updates_iff

end Endpoint

/-! ### A run in front of a notepad -/

namespace Notepad

/-- An endpoint in front of a notepad. -/
def endpoint : Endpoint Notepad := { service := service }

/-- A credential of a vendor, with a number. -/
def numbered : Credential where
  info := { authId := "sensor-1", ext := [("floor", .number (.ofNat 7 (by decide)))] }
  secrets := .generic "vendor" [] []

/-- The credential is written down, its members in an order of their own. -/
def written : Request × Endpoint.Effect Notepad :=
  let r := Request.update "t" "d" (Text.bytes
    "[\x7b\"type\":\"vendor\",\"ext\":\x7b\"floor\":7\x7d,\"auth-id\":\"sensor-1\"\x7d]") none
  (r, endpoint.watched r none)

/-- What was written is read. -/
def told : Request × Endpoint.Effect Notepad :=
  (.read "t" "d", endpoint.watched (.read "t" "d") written.2.state)

/-- An update is refused, as its body is no array. -/
def refused : Request × Endpoint.Effect Notepad :=
  let r := Request.update "t" "d" (Text.bytes "7") none
  (r, endpoint.watched r told.2.state)

/-- What was read is sent back. -/
def sentBack : Request × Endpoint.Effect Notepad :=
  let r := Request.update "t" "d" (Text.bytes told.2.response.body.content) none
  (r, endpoint.watched r refused.2.state)

/-- What was sent back is read. -/
def toldAgain : Request × Endpoint.Effect Notepad :=
  (.read "t" "d", endpoint.watched (.read "t" "d") sentBack.2.state)

/-- The requests of all this, in order. -/
def requests : List Request := [written.1, told.1, refused.1, sentBack.1, toldAgain.1]

/-- The text of a credential changes when it is written down and read for the first time, and not
again. The update that is refused in between changes nothing. -/
theorem history_tells_last_requests :
    remembering.latest none = none ∧
    sentBack.2.calls = [.update "t" "d" [numbered] none] ∧
    toldAgain.2.response.body = told.2.response.body ∧
    ∃ before after, requests = before ++ refused.1 :: after ∧
      endpoint.history (before ++ after) none = [written, told, sentBack, toldAgain] := by
  have hrun : endpoint.history requests none = [written, told, refused, sentBack, toldAgain] := rfl
  have hall := (Endpoint.history_tells_last endpoint remembering requests none rfl).2
  have hwritten : Credential.decodeBody written.1.body = .ok [numbered] := by decide +kernel
  obtain ⟨cs, htells⟩ := (hall [written] told _ hrun).2.2.1
    ⟨rfl, "t", "d", List.mem_singleton_self _⟩
  -- The only update before is the one that wrote the credential down.
  have hcs : cs = [numbered] := by
    rcases htells.last with ⟨front, x, back, hsplit, -, hbody, -⟩ | ⟨hnone, -⟩
    · cases front with
      | nil =>
        cases hsplit
        rw [hwritten] at hbody
        cases hbody
        rfl
      | cons y front =>
        have hempty := (List.cons.inj hsplit).2
        cases front <;> cases hempty
    · refine absurd ?_ (hnone written List.mem_cons_self)
      exact ⟨rfl, "t", "d", [numbered], none, by decide +kernel⟩
  subst hcs
  have hwhole : (Value.array (Credential.encodeAll [numbered])).IsWhole := by
    have hencode : Credential.encodeAll [numbered] = [.object [("auth-id", .string "sensor-1"),
        ("ext", .object [("floor", .number (.ofNat 7 (by decide)))]), ("secrets", .array []),
        ("type", .string "vendor")]] := by decide +kernel
    rw [hencode]
    exact ⟨⟨trivial, ⟨trivial, trivial⟩, trivial, trivial, trivial⟩, trivial⟩
  have ht : Endpoint.IsId "t" := Endpoint.idPattern_isMatch_iff.1 rfl
  have hd : Endpoint.IsId "d" := Endpoint.idPattern_isMatch_iff.1 rfl
  obtain ⟨hcalls, hagain⟩ := htells.sentBack hwhole [refused] sentBack [toldAgain] "t" "d" rfl
    ⟨rfl, ⟨rfl, ht⟩, ⟨rfl, hd⟩, rfl, by decide +kernel⟩
  refine ⟨rfl, hcalls, hagain [] toldAgain [] rfl nofun ?_, ?_⟩
  · exact ⟨rfl, "t", "d", List.mem_singleton_self _⟩
  · exact ((hall [written, told] refused _ hrun).2.2.2 (.inl ⟨rfl, by decide +kernel⟩)).2

end Notepad

end DeviceRegistry.Management
