import DeviceRegistry.Proofs.Credential.Body
import DeviceRegistry.Proofs.Credential.Rules
import DeviceRegistry.Proofs.Management.Run

/-!
# `DeviceRegistry.Proofs.Management.Submission`: what reaches the service

A request submits credentials when it says which device they are for and its body is an array whose
objects represent them. Main statements:

* `decodeBody_eq_ok_iff_represents`: the credentials of a body are those that its objects represent.
* `update_mem_calls_iff`: the service is handed what a request submits, and nothing else.
* `history_submits`: so it is in every run, and an object that breaks a rule keeps the whole body
  from the service.
-/

set_option autoImplicit false

namespace DeviceRegistry

open DeviceRegistry.Json

namespace Credential

variable {items : List Value} {ms : Members} {body : List UInt8} {cs : List Credential}

/-- The objects of a body represent credentials, one each and in their order. -/
def RepresentAll (items : List Value) (cs : List Credential) : Prop :=
  List.Forall₂ (fun ms c => Represents c ms) (objectsOf items) cs

/-- None of the objects is left out: each represents a credential of its own. So one object that
represents none is enough for a body to be refused. -/
theorem RepresentAll.exists_represents (h : RepresentAll items cs) (hms : ms ∈ objectsOf items) :
    ∃ c, Represents c ms := by
  unfold RepresentAll at h
  generalize objectsOf items = l at h hms
  induction h with
  | nil => cases hms
  | cons hc _ ih =>
    rcases List.mem_cons.1 hms with rfl | hms
    · exact ⟨_, hc⟩
    · exact ih hms

/-- Objects are decoded as the credentials that they represent, as long as they come from a body.
The objects of a body are in normal form, which decoding relies on. -/
theorem decodeAll_eq_ok_iff_represents (hbody : Value.ofBytes body = .ok (.array items)) :
    decodeAll items = .ok cs ↔ RepresentAll items cs := by
  have hnormal : ∀ ms ∈ objectsOf items, ms.IsNormal := fun ms hms =>
    isNormal_of_mem_objectsOf hbody hms
  rw [decodeAll_eq_ok_iff, RepresentAll]
  -- Object by object; that each is in normal form is kept as the list gets shorter.
  generalize objectsOf items = l at hnormal
  induction l generalizing cs with
  | nil => cases cs <;> simp
  | cons ms l ih =>
    have hms : ms.IsNormal := hnormal ms List.mem_cons_self
    have hl : ∀ ms ∈ l, ms.IsNormal := fun ms' hms' => hnormal ms' (List.mem_cons_of_mem _ hms')
    cases cs with
    | nil => simp
    | cons c cs =>
      rw [List.forall₂_cons, List.forall₂_cons, decode_eq_ok_iff_represents hms]
      exact and_congr_right fun _ => ih hl

/-- The credentials of a body are those that the objects of an array represent. So what reaches the
service is said without any of the steps of decoding. -/
theorem decodeBody_eq_ok_iff_represents :
    decodeBody body = .ok cs ↔
      ∃ items, Value.ofBytes body = .ok (.array items) ∧ RepresentAll items cs := by
  rw [Management.Endpoint.decodeBody_eq_ok_iff]
  constructor
  · rintro ⟨-, items, hbody, hdecode⟩
    exact ⟨items, hbody, (decodeAll_eq_ok_iff_represents hbody).1 hdecode⟩
  · rintro ⟨items, hbody, hrepresent⟩
    refine ⟨?_, items, hbody, (decodeAll_eq_ok_iff_represents hbody).2 hrepresent⟩
    rintro rfl
    cases hbody

/-- A body with an object that breaks a rule has no credentials, however lawful the other objects
are. -/
theorem decodeBody_ne_ok_of_breaksRule (hbody : Value.ofBytes body = .ok (.array items))
    (hms : ms ∈ objectsOf items) (hbreaks : BreaksRule ms) : decodeBody body ≠ .ok cs := by
  intro h
  obtain ⟨items', hbody', hrepresent⟩ := decodeBody_eq_ok_iff_represents.1 h
  rw [hbody] at hbody'
  cases hbody'
  obtain ⟨c, hc⟩ := hrepresent.exists_represents hms
  exact hbreaks.not_represents (isNormal_of_mem_objectsOf hbody hms) c hc

end Credential

namespace Management.Endpoint

variable {σ : Type} {e : Endpoint σ} {r : Request} {s : σ} {t d : String} {cs : List Credential}
  {v : Option Version}

/-- A request to replace the credentials of a device by those that the objects of its body
represent. The body is an array and not too long. -/
structure Submits (e : Endpoint σ) (r : Request) (t d : String) (cs : List Credential)
    (v : Option Version) : Prop where
  method : r.method = "PUT"
  tenant : r.tenantId = some t ∧ IsId t
  device : r.deviceId = some d ∧ IsId d
  version : r.ifMatch = v
  size : r.body.length ≤ e.config.maxPayloadSize.toNat
  body : ∃ items, Value.ofBytes r.body = .ok (.array items) ∧ Credential.RepresentAll items cs

/-- The service is handed what a request submits, and nothing else. -/
theorem update_mem_calls_iff : .update t d cs v ∈ (e.watched r s).calls ↔ e.Submits r t d cs v := by
  rw [mem_calls_update_iff, Credential.decodeBody_eq_ok_iff_represents]
  constructor
  · rintro ⟨hput, ht, hd, hv, hsize, hbody⟩
    exact ⟨hput, ht, hd, hv, hsize, hbody⟩
  · rintro ⟨hput, ht, hd, hv, hsize, hbody⟩
    exact ⟨hput, ht, hd, hv, hsize, hbody⟩

/-- A request whose body has an object that breaks a rule is refused without asking the service,
unless it reads. -/
theorem calls_eq_nil_of_breaksRule {items : List Value} {ms : Members} (hget : r.method ≠ "GET")
    (hbody : Value.ofBytes r.body = .ok (.array items)) (hms : ms ∈ Credential.objectsOf items)
    (hbreaks : Credential.BreaksRule ms) : (e.watched r s).calls = [] := by
  rcases e.watched_cases r s with
    ⟨t, d, hmethod, -⟩ | ⟨t, d, cs, -, -, ⟨-, hdecode⟩, -⟩ | ⟨hcalls, -⟩
  · exact absurd hmethod hget
  · exact absurd hdecode (Credential.decodeBody_ne_ok_of_breaksRule hbody hms hbreaks)
  · exact hcalls

/-- In every run, whatever the service does, each update that it receives is what a request of the
run submits: for a device with proper identifiers, and with one lawful credential for each object of
the body. A body with an object that breaks a rule does not reach the service at all. -/
theorem history_submits (e : Endpoint σ) (rs : List Request) (s : σ) :
    e.calls rs s = (e.history rs s).flatMap (·.2.calls) ∧
    ∀ x ∈ e.history rs s,
      (∀ t d cs v, .update t d cs v ∈ x.2.calls ↔ e.Submits x.1 t d cs v) ∧
      (∀ items, Value.ofBytes x.1.body = .ok (.array items) →
        (∃ ms ∈ Credential.objectsOf items, Credential.BreaksRule ms) →
        x.1.method ≠ "GET" → x.2.calls = []) := by
  refine ⟨e.calls_eq rs s, fun x hx => ?_⟩
  obtain ⟨-, s', hwatched⟩ := e.exists_of_mem_history hx
  rw [hwatched]
  refine ⟨fun t d cs v => update_mem_calls_iff, ?_⟩
  rintro items hbody ⟨ms, hms, hbreaks⟩ hget
  exact calls_eq_nil_of_breaksRule hget hbody hms hbreaks

end Management.Endpoint

end DeviceRegistry
