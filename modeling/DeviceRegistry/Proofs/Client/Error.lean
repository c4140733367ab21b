import DeviceRegistry.Proofs.Client.Exchange

/-!
# `DeviceRegistry.Proofs.Client.Error`: how calls of a client fail

A call fails before its request is sent, on its way, or at the response. Main statements:

* `Fails.isOfCall`: a call fails for none of the reasons that only making a client has.
-/

set_option autoImplicit false

namespace DeviceRegistry.Client

open DeviceRegistry.Management (Call)

variable {c : Client} {wire : Wire} {e : Error}

/-- A call of a client ends in an error. -/
def Fails (c : Client) (wire : Wire) : Call → Error → Prop
  | .read t d, e => (c.read t d wire).1 = .error e
  | .update t d cs v, e => (c.update t d cs v wire).1 = .error e

/-- An error says why a call failed, and not why there is no client or nothing to send. -/
def Error.IsOfCall : Error → Prop
  | .tls _ | .payload _ => False
  | .transport _ | .invalidBaseUrl _ | .timeout _ | .deserialization .. => True

/-! ### The parts of a call -/

/-- There is no URL for a device only if the registry has none that can be extended; this is a
failure of the call, as a client can be made for such a registry. -/
theorem credentialsUrl_isOfCall {t d : String} (h : c.credentialsUrl t d = .error e) :
    e.IsOfCall := by
  unfold credentialsUrl at h
  split at h
  · cases h
  · cases h
    trivial

/-- A reply is an error only if nothing starts to arrive: the connection is closed, or the time is
over. A response that has started is received. -/
theorem received_isOfCall {url : Url} {seconds : Nat} {reply : Reply}
    (h : reply.received url seconds = .error e) : e.IsOfCall := by
  cases reply with
  | response _ _ _ | cut _ _ | stalled _ _ => cases h
  | closed | silence =>
    cases h
    trivial

/-- Sending fails by a header, by the URL, by a server that is not there, or by its reply, and each
of these is a failure of the call. -/
theorem send_isOfCall {method body : String} {url : Url} {headers : List (String × String)}
    (h : (c.send method url headers body wire).1 = .error e) : e.IsOfCall := by
  unfold send at h
  dsimp only at h
  -- The user that a URL names does not matter here.
  generalize (if (userOf? url).isSome = true then url.withoutUser else url) = target at h
  split at h
  · cases h
    trivial
  · split at h
    · cases h
      trivial
    · split at h
      · cases h
        trivial
      · exact received_isOfCall h

/-- The outcome of reading is an error when the body does not arrive or cannot be decoded; every
other response is an outcome, whatever its status. -/
theorem outcomeOfRead_isOfCall {r : Received} (h : outcomeOfRead r = .error e) : e.IsOfCall := by
  unfold outcomeOfRead at h
  dsimp only at h
  split at h
  · cases h
  · split at h
    · cases h
      trivial
    · split at h
      · cases h
      · cases h
        trivial

/-! ### Calls -/

/-- A call that reads fails by its URL, by its request or by its response, and so never for the
reasons that only making a client has. -/
theorem read_isOfCall {t d : String} (h : (c.read t d wire).1 = .error e) : e.IsOfCall := by
  cases hurl : c.credentialsUrl t d with
  | error e' =>
    rw [read_eq_of_error hurl] at h
    cases h
    exact credentialsUrl_isOfCall hurl
  | ok url =>
    rw [read_eq hurl] at h
    rcases except_bind_eq_error.1 h with hsend | ⟨r, -, hr⟩
    · exact send_isOfCall hsend
    · exact outcomeOfRead_isOfCall hr

/-- A call that replaces fails by its URL or by its request. What the response holds does not matter
to it, so there is no third way. -/
theorem update_isOfCall {t d : String} {cs : List Credential} {v : Option Management.Version}
    (h : (c.update t d cs v wire).1 = .error e) : e.IsOfCall := by
  cases hurl : c.credentialsUrl t d with
  | error e' =>
    rw [update_eq_of_error hurl] at h
    cases h
    exact credentialsUrl_isOfCall hurl
  | ok url =>
    rw [update_eq hurl] at h
    dsimp only at h
    cases hsend : (c.send "PUT" url (updateHeaders v) (Call.update t d cs v).content wire).1 with
    | ok r =>
      rw [hsend] at h
      cases h
    | error e' =>
      rw [hsend] at h
      cases h
      exact send_isOfCall hsend

/-- A call fails for none of the reasons that only making a client has, so an error of the program
that names such a reason comes from before there was a client. -/
theorem Fails.isOfCall {call : Call} (h : c.Fails wire call e) : e.IsOfCall := by
  cases call with
  | read t d => exact read_isOfCall h
  | update t d cs v => exact update_isOfCall h

end DeviceRegistry.Client
