import DeviceRegistry.Client.Basic
import DeviceRegistry.Proofs.Steps

/-!
# `DeviceRegistry.Proofs.Client.Exchange`: one call, one request

A call of a client becomes a request when there is a URL for the device, every header can carry its
value and the URL is one that requests are sent to (`Reaches`). The server then uses up one reply
for it, if it has one left. Main statements:

* `after_of_reply`, `after_of_refused`, `after_of_not_reaches`: what a call leaves on the wire.
* `after_cases`: a call sends nothing, or one request that is answered.
* `read_of_reply`, `update_of_reply`: what a call makes of the reply.
* `versionOf_eq_some_iff`: the version that a response names is its first entity tag.
-/

set_option autoImplicit false

namespace DeviceRegistry

open DeviceRegistry.Json (Value)

/-! ### Calls -/

namespace Management.Call

/-- The tenant that a call names. -/
def tenantId : Call → String
  | .read t _ | .update t _ _ _ => t

/-- The device that a call names. -/
def deviceId : Call → String
  | .read _ d | .update _ d _ _ => d

/-- The version that a call asserts. -/
def asserted : Call → Option Version
  | .read .. => none
  | .update _ _ _ v => v

/-- The method of the request for a call. -/
def method : Call → String
  | .read .. => "GET"
  | .update .. => "PUT"

/-- The headers of the request for a call, besides those of its client. -/
def headers : Call → List (String × String)
  | .read .. => []
  | .update _ _ _ v => Client.updateHeaders v

/-- The body of the request for a call. -/
def content : Call → String
  | .read .. => ""
  | .update _ _ cs _ => (Value.array (Credential.encodeAll cs)).render

end Management.Call

namespace Client

open DeviceRegistry.Management (Call Outcome Version)

variable {c : Client} {call : Call} {url : Url} {wire : Wire} {reply : Reply} {rest : List Reply}

/-! ### Sending -/

/-- The URL that a request goes to. A user that a URL names is told by a header instead. -/
def bareUrl (url : Url) : Url := if (userOf? url).isSome then url.withoutUser else url

/-- The user that a URL names has no part in what the request asks for, so taking the user out
leaves the path and the query as they were. -/
theorem target_bareUrl (url : Url) : (bareUrl url).target = url.target := by
  unfold bareUrl
  split <;> rfl

/-- A request as a client sends it. -/
def requestTo (c : Client) (url : Url) (method : String) (headers : List (String × String))
    (body : String) : Sent where
  method := method
  target := url.target
  headers := ((userOf? url).toList.map fun (name, password) =>
    basicHeader name (password.getD "")) ++ headers ++ c.ownHeaders
  body := body

section
variable {method body : String} {headers : List (String × String)}

/-- A value that no header can carry is noticed first, before the URL is looked at, and nothing is
sent. -/
theorem send_forbidden (h : ∃ h ∈ headers, isHeaderValue h.2 = false) :
    c.send method url headers body wire = (.error (.transport .header), wire) := by
  have hany : (headers.any fun h => !isHeaderValue h.2) = true := by simpa using h
  exact if_pos hany

/-- A URL that no request can be sent to is noticed when the headers are in order; the error names
the URL without its user, and nothing is sent. -/
theorem send_unsendable (hheaders : ∀ h ∈ headers, isHeaderValue h.2 = true)
    (hurl : isSendable (bareUrl url) = false) :
    c.send method url headers body wire =
      (.error (.transport (.unsendable (bareUrl url))), wire) := by
  have hany : ¬ (headers.any fun h => !isHeaderValue h.2) = true := by simpa using hheaders
  have hno : (!isSendable (bareUrl url)) = true := by rw [hurl]; rfl
  exact (if_neg hany).trans (if_pos hno)

/-- When headers and URL are in order, only the server decides: it is not there, or it takes the
request and gives the next of its replies. -/
theorem send_of_sendable (hheaders : ∀ h ∈ headers, isHeaderValue h.2 = true)
    (hurl : isSendable (bareUrl url) = true) :
    c.send method url headers body wire = match wire.replies with
      | [] => (.error (.transport (.refused (bareUrl url))), wire)
      | reply :: rest => (reply.received (bareUrl url) (c.timeoutMillis / 1000),
          ⟨rest, wire.sent ++ [c.requestTo url method headers body]⟩) := by
  have hany : ¬ (headers.any fun h => !isHeaderValue h.2) = true := by simpa using hheaders
  have hyes : ¬ (!isSendable (bareUrl url)) = true := by rw [hurl]; decide
  rw [requestTo, ← target_bareUrl]
  exact (if_neg hany).trans (if_neg hyes)

end

/-! ### Calls as requests -/

/-- The request that a client sends for a call. -/
def requestOf (c : Client) (url : Url) (call : Call) : Sent :=
  c.requestTo url call.method call.headers call.content

/-- The request for a call can be sent. -/
structure Reaches (c : Client) (call : Call) (url : Url) : Prop where
  /-- The URL is that of the device. -/
  address : c.credentialsUrl call.tenantId call.deviceId = .ok url
  /-- A header can carry the version. -/
  version : ∀ v, call.asserted = some v → isHeaderValue v = true
  /-- The URL is one that requests are sent to. -/
  sendable : isSendable (bareUrl url) = true

/-- The wire behind a call. -/
def after (c : Client) (wire : Wire) : Call → Wire
  | .read t d => (c.read t d wire).2
  | .update t d cs v => (c.update t d cs v wire).2

/-- Headers can carry what a call sets when one can carry the version, as all of the others are
fixed texts. -/
theorem forall_mem_headers_iff :
    (∀ h ∈ call.headers, isHeaderValue h.2 = true) ↔
      ∀ v, call.asserted = some v → isHeaderValue v = true := by
  have hkind : isHeaderValue "application/json" = true := by decide
  cases call with
  | read t d => simp [Call.headers, Call.asserted]
  | update t d cs v =>
    cases v <;> simp [Call.headers, Call.asserted, updateHeaders, hkind]

/-- Reading is sending a `GET` without headers and without a body to the URL of the device, and then
taking the outcome out of the response. -/
theorem read_eq {t d : String} (hurl : c.credentialsUrl t d = .ok url) :
    c.read t d wire =
      ((c.send "GET" url [] "" wire).1.bind outcomeOfRead, (c.send "GET" url [] "" wire).2) := by
  unfold read
  rw [hurl]
  rfl

/-- Replacing is sending a `PUT` with the credentials to the URL of the device; of the response only
the status and the version are used. -/
theorem update_eq {t d : String} {cs : List Credential} {v : Option Version}
    (hurl : c.credentialsUrl t d = .ok url) :
    c.update t d cs v wire =
      let said := c.send "PUT" url (updateHeaders v) (Call.update t d cs v).content wire
      (said.1.map fun r => ⟨r.status, none, versionOf r.headers⟩, said.2) := by
  unfold update
  rw [hurl]
  rfl

/-- Without a URL for the device, reading ends there, and the wire stays as it is. -/
theorem read_eq_of_error {t d : String} {e : Error} (hurl : c.credentialsUrl t d = .error e) :
    c.read t d wire = (.error e, wire) := by
  unfold read
  rw [hurl]
  rfl

/-- Without a URL for the device, replacing ends there, and the wire stays as it is. -/
theorem update_eq_of_error {t d : String} {cs : List Credential} {v : Option Version} {e : Error}
    (hurl : c.credentialsUrl t d = .error e) : c.update t d cs v wire = (.error e, wire) := by
  unfold update
  rw [hurl]
  rfl

/-- A call leaves on the wire what its request does, so what is proved about sending holds of both
kinds of calls. -/
theorem after_eq (hurl : c.credentialsUrl call.tenantId call.deviceId = .ok url) :
    c.after wire call = (c.send call.method url call.headers call.content wire).2 := by
  cases call with
  | read t d => exact congrArg Prod.snd (read_eq hurl)
  | update t d cs v => exact congrArg Prod.snd (update_eq hurl)

/-- A call for a device without a URL sends nothing. It is one of the ways in which a call does not
reach a server. -/
theorem after_eq_of_error {e : Error}
    (hurl : c.credentialsUrl call.tenantId call.deviceId = .error e) :
    c.after wire call = wire := by
  cases call with
  | read t d => exact congrArg Prod.snd (read_eq_of_error hurl)
  | update t d cs v => exact congrArg Prod.snd (update_eq_of_error hurl)

/-- A call whose request can be sent uses up one reply and adds one request behind those that were
sent before. -/
theorem after_of_reply (h : c.Reaches call url) (hreply : wire.replies = reply :: rest) :
    c.after wire call = ⟨rest, wire.sent ++ [c.requestOf url call]⟩ := by
  rw [after_eq h.address, send_of_sendable (forall_mem_headers_iff.2 h.version) h.sendable, hreply]
  rfl

/-- A call whose request cannot be sent leaves the wire as it is: there is no URL, or one of the two
checks before sending fails. -/
theorem after_of_not_reaches (h : ∀ url, ¬ c.Reaches call url) : c.after wire call = wire := by
  cases hurl : c.credentialsUrl call.tenantId call.deviceId with
  | error e => exact after_eq_of_error hurl
  | ok url =>
    rw [after_eq hurl]
    -- One of the two checks of the request fails.
    by_cases hheaders : ∀ h ∈ call.headers, isHeaderValue h.2 = true
    · have hsendable : isSendable (bareUrl url) = false := by
        rw [← Bool.not_eq_true]
        intro hsendable
        exact h url ⟨hurl, forall_mem_headers_iff.1 hheaders, hsendable⟩
      rw [send_unsendable hheaders hsendable]
    · rw [send_forbidden (by simpa using hheaders)]

/-- A server that cannot be connected to is sent nothing, whether the request could have been sent
or not. -/
theorem after_of_refused (hreply : wire.replies = []) : c.after wire call = wire := by
  by_cases h : ∃ url, c.Reaches call url
  · obtain ⟨url, h⟩ := h
    rw [after_eq h.address, send_of_sendable (forall_mem_headers_iff.2 h.version) h.sendable,
      hreply]
  · exact after_of_not_reaches (not_exists.1 h)

/-- A call sends nothing, or one request, which uses up a reply. All statements on how many requests
there are come down to this. -/
theorem after_cases (c : Client) (call : Call) (wire : Wire) :
    c.after wire call = wire ∨ ∃ url reply rest, c.Reaches call url ∧ wire.replies = reply :: rest ∧
      c.after wire call = ⟨rest, wire.sent ++ [c.requestOf url call]⟩ := by
  by_cases h : ∃ url, c.Reaches call url
  · obtain ⟨url, h⟩ := h
    cases hreply : wire.replies with
    | nil => exact .inl (after_of_refused hreply)
    | cons reply rest => exact .inr ⟨url, reply, rest, h, rfl, after_of_reply h hreply⟩
  · exact .inl (after_of_not_reaches (not_exists.1 h))

/-! ### Replies -/

section
variable {t d : String} {cs : List Credential} {v : Option Version}

/-- What reading makes of a reply: what is received of it, and then the outcome of that, in which
the body counts when the status is 200. -/
theorem read_of_reply (h : c.Reaches (.read t d) url) (hreply : wire.replies = reply :: rest) :
    (c.read t d wire).1 =
      (reply.received (bareUrl url) (c.timeoutMillis / 1000)).bind outcomeOfRead := by
  have hurl : c.credentialsUrl t d = .ok url := h.address
  have hheaders : ∀ h ∈ ([] : List (String × String)), isHeaderValue h.2 = true := by simp
  rw [read_eq hurl, send_of_sendable hheaders h.sendable, hreply]

/-- What replacing makes of a reply. Its body does not matter, so even a response whose body never
ends tells what came of the update. -/
theorem update_of_reply (h : c.Reaches (.update t d cs v) url)
    (hreply : wire.replies = reply :: rest) :
    (c.update t d cs v wire).1 =
      (reply.received (bareUrl url) (c.timeoutMillis / 1000)).map fun r =>
        ⟨r.status, none, versionOf r.headers⟩ := by
  have hurl : c.credentialsUrl t d = .ok url := h.address
  have hheaders : ∀ h ∈ updateHeaders v, isHeaderValue h.2 = true :=
    forall_mem_headers_iff.2 h.version
  rw [update_eq hurl, send_of_sendable hheaders h.sendable, hreply]

end

/-! ### Versions -/

/-- The first entity tag among headers, without spaces and tabs around it. The name of a header may
be written in letters of any case. -/
def FirstEtag (headers : List (String × String)) (v : String) : Prop :=
  ∃ before name raw after, headers = before ++ (name, raw) :: after ∧
    (∀ h ∈ before, h.1.map Char.toLower ≠ "etag") ∧ name.map Char.toLower = "etag" ∧
    trimmed raw = v

/-- All characters of a text are visible ones of ASCII, spaces or tabs. -/
def IsVisible (s : String) : Prop := ∀ c ∈ s.toList, c = '\t' ∨ (' ' ≤ c ∧ c ≤ '~')

/-- The characters of a header that can be shown are a tab and those from the space to the tilde,
which is the test that versions have to pass. -/
theorem isVisible_iff {ch : Char} : isVisible ch = true ↔ ch = '\t' ∨ (' ' ≤ ch ∧ ch ≤ '~') := by
  have hspace : ' ' ≤ ch ↔ 0x20 ≤ ch.toNat := Iff.rfl
  have htilde : ch ≤ '~' ↔ ch.toNat < 0x7F := Nat.lt_succ_iff.symm
  simp only [isVisible, Bool.or_eq_true, Bool.and_eq_true, decide_eq_true_eq, hspace, htilde]

/-- The version that a response names is its first entity tag, if all of its characters can be
shown; later tags are not looked at, also when the first one is of no use. -/
theorem versionOf_eq_some_iff {headers : List (String × String)} {v : Version} :
    versionOf headers = some v ↔ FirstEtag headers v ∧ IsVisible v := by
  have hvisible : v.toList.all isVisible = true ↔ IsVisible v := by
    simp only [List.all_eq_true, isVisible_iff, IsVisible]
  unfold versionOf
  constructor
  -- What was found first under the name is the first header of this name, and the other way round.
  · intro h
    obtain ⟨⟨name, raw⟩, hfind, h⟩ := Option.bind_eq_some_iff.1 h
    obtain ⟨hname, before, after, hheaders, hbefore⟩ := List.find?_eq_some_iff_append.1 hfind
    dsimp only at h
    split at h
    · rename_i hall
      obtain rfl : trimmed raw = v := Option.some.inj h
      refine ⟨⟨before, name, raw, after, hheaders, ?_, by simpa using hname, rfl⟩, hvisible.1 hall⟩
      intro h hmem
      simpa using hbefore h hmem
    · cases h
  · intro h
    obtain ⟨⟨before, name, raw, after, hheaders, hbefore, hname, rfl⟩, hshown⟩ := h
    refine Option.bind_eq_some_iff.2 ⟨(name, raw), ?_, if_pos (hvisible.2 hshown)⟩
    refine List.find?_eq_some_iff_append.2 ⟨by simpa using hname, before, after, hheaders, ?_⟩
    intro h hmem
    simpa using hbefore h hmem

end Client

end DeviceRegistry
