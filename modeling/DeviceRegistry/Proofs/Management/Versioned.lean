import DeviceRegistry.Proofs.Management.Handle

/-!
# `DeviceRegistry.Proofs.Management.Versioned`: one request at a service that keeps versions

A service may keep a version with the credentials of each device, and apply an update that asserts a
version only if nothing has changed since that version was handed out. Main statements:

* `Versioned`: what is assumed of such a service. `Shelf` is one.
* `serve_get`: reading changes nothing and hands out the current version.
* `serve_put`: an update that asserts a version replaces the credentials whose version it is, or
  changes nothing.
-/

set_option autoImplicit false

namespace DeviceRegistry.Management

variable {κ σ : Type}

/-! ### Services that keep versions -/

/-- What is stored for a device: its credentials, their version, and all versions that were ever
used for it. -/
structure Stored where
  credentials : List Credential
  version : Version
  used : Version → Prop

/-- A service that keeps one list of credentials and one version for each device. It answers every
read with both. It applies an update that asserts the current version, which then becomes one that
was never used, and refuses one that asserts another. -/
structure Versioned (service : Service σ) where
  view : σ → (tenantId deviceId : String) → Stored
  used_version : ∀ s t d, (view s t d).used (view s t d).version
  read_outcome : ∀ s t d, ∃ payload,
    (service.read t d s).1 = .ok ⟨200, payload, some (view s t d).version⟩ ∧
      payload.getD [] = (view s t d).credentials
  read_keeps : ∀ s t d, view (service.read t d s).2 = view s
  /-- The outcome of an update that asserts the current version. -/
  current_outcome : ∀ s t d cs, ∃ o : Outcome Unit,
    (service.update t d cs (some (view s t d).version) s).1 = .ok o ∧ o.isSuccess = true ∧
      o.version = some (view (service.update t d cs (some (view s t d).version) s).2 t d).version
  current_replaces : ∀ s t d cs,
    (view (service.update t d cs (some (view s t d).version) s).2 t d).credentials = cs
  current_fresh : ∀ s t d cs, ¬ (view s t d).used
    (view (service.update t d cs (some (view s t d).version) s).2 t d).version
  current_used : ∀ s t d cs v, (view s t d).used v →
    (view (service.update t d cs (some (view s t d).version) s).2 t d).used v
  current_keeps : ∀ s t d cs t' d', (t', d') ≠ (t, d) →
    view (service.update t d cs (some (view s t d).version) s).2 t' d' = view s t' d'
  /-- The outcome of an update that asserts another version. -/
  stale_outcome : ∀ s t d cs v, v ≠ (view s t d).version → ∃ o : Outcome Unit,
    (service.update t d cs (some v) s).1 = .ok o ∧ o.status = 412
  stale_keeps : ∀ s t d cs v, v ≠ (view s t d).version →
    view (service.update t d cs (some v) s).2 = view s

/-! ### A store that counts -/

/-- The state of a simple store: for each device its credentials, and how often they were
replaced. -/
abbrev Shelf := (tenantId deviceId : String) → List Credential × Nat

namespace Shelf

/-- The version after `n` replacements. -/
def versionAt (n : Nat) : Version := String.ofList (List.replicate n '+')

/-- Different counts are different versions. The text of a version is as long as the count, so the
length tells them apart. -/
theorem versionAt_inj {m n : Nat} (h : versionAt m = versionAt n) : m = n := by
  have hlength := congrArg List.length (String.ofList_injective h)
  rwa [List.length_replicate, List.length_replicate] at hlength

/-- Puts other credentials in the place of those of a device. -/
def replace (s : Shelf) (t d : String) (cs : List Credential) : Shelf := fun t' d' =>
  if (t', d') = (t, d) then (cs, (s t d).2 + 1) else s t' d'

/-- The credentials of a device are replaced, and it counts one more. -/
theorem replace_self (s : Shelf) (t d : String) (cs : List Credential) :
    s.replace t d cs t d = (cs, (s t d).2 + 1) :=
  if_pos rfl

/-- Those of any other device are left. So devices do not get in the way of each other on a shelf.
-/
theorem replace_of_ne (s : Shelf) {t d t' d' : String} (cs : List Credential)
    (h : (t', d') ≠ (t, d)) : s.replace t d cs t' d' = s t' d' :=
  if_neg h

/-- The store. An update that asserts no version is always applied. -/
def service : Service Shelf where
  read t d s := (.ok ⟨200, some (s t d).1, some (versionAt (s t d).2)⟩, s)
  update t d cs asserted s :=
    if asserted.all (· == versionAt (s t d).2) then
      (.ok ⟨204, none, some (versionAt ((s t d).2 + 1))⟩, s.replace t d cs)
    else (.ok ⟨412, none, none⟩, s)

/-- An update that asserts the current version is applied, and the version is a new one afterwards.
-/
theorem update_current (s : Shelf) (t d : String) (cs : List Credential) :
    service.update t d cs (some (versionAt (s t d).2)) s =
      (.ok ⟨204, none, some (versionAt ((s t d).2 + 1))⟩, s.replace t d cs) :=
  if_pos (by simp)

/-- An update that asserts another version is refused, and the shelf stays as it is. -/
theorem update_stale (s : Shelf) (t d : String) (cs : List Credential) {v : Version}
    (h : v ≠ versionAt (s t d).2) :
    service.update t d cs (some v) s = (.ok ⟨412, none, none⟩, s) :=
  if_neg (by simpa using h)

/-- The store keeps versions: the count of the replacements tells them apart. -/
def versioned : Versioned service where
  view s t d := ⟨(s t d).1, versionAt (s t d).2, fun v => ∃ n ≤ (s t d).2, v = versionAt n⟩
  used_version s t d := ⟨(s t d).2, Nat.le_refl _, rfl⟩
  read_outcome s t d := ⟨some (s t d).1, rfl, rfl⟩
  read_keeps _ _ _ := rfl
  current_outcome s t d cs := by
    simp only [update_current, replace_self]
    exact ⟨_, rfl, rfl, rfl⟩
  current_replaces s t d cs := by simp only [update_current, replace_self]
  current_fresh s t d cs := by
    simp only [update_current, replace_self]
    rintro ⟨n, hn, hversion⟩
    have hcount := versionAt_inj hversion
    omega
  current_used s t d cs v := by
    simp only [update_current, replace_self]
    rintro ⟨n, hn, hversion⟩
    exact ⟨n, Nat.le_succ_of_le hn, hversion⟩
  current_keeps s t d cs t' d' h := by simp only [update_current, replace_of_ne s cs h]
  stale_outcome s t d cs v h := by
    rw [update_stale s t d cs h]
    exact ⟨_, rfl, rfl⟩
  stale_keeps s t d cs v h := by rw [update_stale s t d cs h]

end Shelf

/-! ### What serving a request changes -/

/-- A request that was served, with the states of the service right before and right after. -/
structure Exchange (κ σ : Type) where
  client : κ
  request : Request
  response : Response
  before : σ
  after : σ

/-- Whether an exchange handed out a version of a device. -/
def Exchange.HandsOut (x : Exchange κ σ) (t d : String) (v : Version) : Prop :=
  x.request.method = "GET" ∧ x.request.tenantId = some t ∧ x.request.deviceId = some d ∧
    x.response.status.code = 200 ∧ x.response.etag = some v

/-- Serves a request. -/
def Endpoint.exchange (e : Endpoint σ) (client : κ) (r : Request) (s : σ) : Exchange κ σ :=
  ⟨client, r, (e.handle r s).1.response, s, (e.handle r s).2⟩

namespace Versioned

variable {service : Service σ} (V : Versioned service) {s s' : σ} {t d : String} {v : Version}
  {cs : List Credential}

/-- The credentials of one device were replaced, under a version that is new. -/
structure Replaced (s s' : σ) (t d : String) (cs : List Credential) : Prop where
  credentials : (V.view s' t d).credentials = cs
  fresh : ¬ (V.view s t d).used (V.view s' t d).version
  used : ∀ v, (V.view s t d).used v → (V.view s' t d).used v
  keeps : ∀ t' d', (t', d') ≠ (t, d) → V.view s' t' d' = V.view s t' d'

/-- Nothing was changed, or the credentials of one device were replaced. -/
def Changed (s s' : σ) : Prop := V.view s' = V.view s ∨ ∃ t d cs, V.Replaced s s' t d cs

/-- A version was used for a device, and as long as it is the current one, the credentials of the
device are as `P` says. -/
def Ties (s : σ) (t d : String) (v : Version) (P : List Credential → Prop) : Prop :=
  (V.view s t d).used v ∧ ((V.view s t d).version = v → P (V.view s t d).credentials)

/-- What a version is tied to stays as it is: a version that was used never comes back. So if it is
still the current one, nothing has been changed since. -/
theorem Ties.changed {P : List Credential → Prop} (h : V.Ties s t d v P) (hs : V.Changed s s') :
    V.Ties s' t d v P := by
  rcases hs with hview | ⟨t', d', cs, hreplaced⟩
  · rw [Ties, hview]
    exact h
  -- The device that was changed has a new version now, so the old one says nothing any more.
  · by_cases hdevice : (t, d) = (t', d')
    · cases hdevice
      refine ⟨hreplaced.used v h.1, fun hversion => ?_⟩
      have hfresh := hreplaced.fresh
      rw [hversion] at hfresh
      exact absurd h.1 hfresh
    · rw [Ties, hreplaced.keeps t d hdevice]
      exact h

/-- Updating the current version replaces the credentials. It collects what is assumed of the
service for this case. -/
theorem replaced_of_current :
    V.Replaced s (service.update t d cs (some (V.view s t d).version) s).2 t d cs where
  credentials := V.current_replaces s t d cs
  fresh := V.current_fresh s t d cs
  used := V.current_used s t d cs
  keeps := V.current_keeps s t d cs

end Versioned

section

variable {e : Endpoint σ} (V : Versioned e.service) {r : Request} {s : σ}

/-- Reading changes nothing. What it hands out is the current version, with the credentials. Only a
response with the status 200 hands out a version. -/
theorem serve_get (client : κ) (hget : r.method = "GET") :
    V.view (e.handle r s).2 = V.view s ∧
      ∀ t d v, (e.exchange client r s).HandsOut t d v → v = (V.view s t d).version ∧
        (e.exchange client r s).response.body =
          .json (.array (Credential.encodeAll (V.view s t d).credentials)) := by
  unfold Endpoint.exchange Exchange.HandsOut
  -- A request that is refused gets no version. The others get the one that the service has read.
  cases hids : Endpoint.checkIds r.tenantId r.deviceId with
  | error err =>
    obtain ⟨spans, hhandle⟩ := Endpoint.handle_invalid (e := e) (s := s) (.inl hget) hids
    rw [hhandle]
    refine ⟨rfl, ?_⟩
    rintro t d v ⟨-, -, -, -, hetag⟩
    cases hetag
  | ok ids =>
    obtain ⟨t, d⟩ := ids
    obtain ⟨response, spans, hhandle, htells⟩ := Endpoint.handle_read (e := e) (s := s) hget hids
    obtain ⟨⟨htenant, -⟩, hdevice, -⟩ := Endpoint.isId_of_checkIds hids
    obtain ⟨payload, houtcome, hpayload⟩ := V.read_outcome s t d
    rw [houtcome] at htells
    simp only [Endpoint.TellsRead, hpayload] at htells
    rw [hhandle]
    refine ⟨V.read_keeps s t d, ?_⟩
    rintro t' d' v ⟨-, ht, hd, -, hetag⟩
    obtain rfl : t = t' := Option.some.inj (htenant.symm.trans ht)
    obtain rfl : d = d' := Option.some.inj (hdevice.symm.trans hd)
    obtain ⟨-, hbody, hversion⟩ := htells
    exact ⟨Option.some.inj (hetag.symm.trans hversion), hbody⟩

/-- An update that asserts a version succeeds and replaces the credentials whose version it is, or
it fails and changes nothing. It may fail before the service is asked, or because the service says
that the version is not the current one. -/
theorem serve_put {v : Version} (hput : r.method = "PUT") (hversion : r.ifMatch = some v) :
    ((e.handle r s).1.response.status.isSuccess = true ∧ ∃ t d cs, r.tenantId = some t ∧
      r.deviceId = some d ∧ Credential.decodeBody r.body = .ok cs ∧ v = (V.view s t d).version ∧
      V.Replaced s (e.handle r s).2 t d cs) ∨
    ((e.handle r s).1.response.status.isSuccess = false ∧
      V.view (e.handle r s).2 = V.view s) := by
  cases hids : Endpoint.checkIds r.tenantId r.deviceId with
  | error err =>
    obtain ⟨spans, hhandle⟩ := Endpoint.handle_invalid (e := e) (s := s) (.inr hput) hids
    rw [hhandle]
    exact .inr ⟨Endpoint.isSuccess_status err, rfl⟩
  | ok ids =>
    obtain ⟨t, d⟩ := ids
    obtain ⟨⟨htenant, -⟩, hdevice, -⟩ := Endpoint.isId_of_checkIds hids
    by_cases hbody : ∃ cs, r.body.length ≤ e.config.maxPayloadSize.toNat ∧
        Credential.decodeBody r.body = .ok cs
    · obtain ⟨cs, hbody⟩ := hbody
      obtain ⟨response, spans, hhandle, htells⟩ :=
        Endpoint.handle_update (e := e) (s := s) hput hids hbody
      rw [hversion] at htells hhandle
      rw [hhandle]
      -- The service decides by the version whether the update is applied.
      by_cases hcurrent : v = (V.view s t d).version
      · subst hcurrent
        obtain ⟨o, houtcome, hsuccess, -⟩ := V.current_outcome s t d cs
        rw [houtcome] at htells
        exact .inl ⟨htells.isSuccess.trans hsuccess, t, d, cs, htenant, hdevice, hbody.2, rfl,
          V.replaced_of_current⟩
      · obtain ⟨o, houtcome, hstatus⟩ := V.stale_outcome s t d cs v hcurrent
        rw [houtcome] at htells
        have hfailed : o.isSuccess = false := by
          rw [Outcome.isSuccess, hstatus]
          rfl
        exact .inr ⟨htells.isSuccess.trans hfailed, V.stale_keeps s t d cs v hcurrent⟩
    · obtain ⟨response, spans, hhandle, -, hlong, hshort⟩ :=
        Endpoint.handle_refused (e := e) (s := s) hput hids hbody
      rw [hhandle]
      refine .inr ⟨?_, rfl⟩
      rcases Nat.lt_or_ge e.config.maxPayloadSize.toNat r.body.length with hlt | hle
      · simp [Status.isSuccess, hlong hlt]
      · simp [Status.isSuccess, hshort hle]

/-- Serving a request whose update asserts a version replaces the credentials of one device, or
changes nothing. -/
theorem serve_changed (hversion : r.method = "PUT" → ∃ v, r.ifMatch = some v) :
    V.Changed s (e.handle r s).2 := by
  by_cases hget : r.method = "GET"
  · exact .inl (serve_get V () hget).1
  · by_cases hput : r.method = "PUT"
    · obtain ⟨v, hv⟩ := hversion hput
      rcases serve_put V (s := s) hput hv with ⟨-, t, d, cs, -, -, -, -, hreplaced⟩ | ⟨-, hsame⟩
      · exact .inr ⟨t, d, cs, hreplaced⟩
      · exact .inl hsame
    · rw [Endpoint.handle_unknown hget hput]
      exact .inl rfl

end

end DeviceRegistry.Management
