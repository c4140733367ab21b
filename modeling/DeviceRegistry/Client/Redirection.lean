import DeviceRegistry.Client.Basic

/-!
# `DeviceRegistry.Client.Redirection`: requests that follow a redirection

What carries the requests of a client was never told to leave redirections alone, so it follows
them, up to ten for one request, and the client does not learn of it: a `Wire` has one reply for
one request, the reply that comes in the end. A server sees all of the requests. An `Exchange` is
what becomes of one request on its way, `Sent.followAll` has the requests that the way adds, and
`traffic` is what servers see of a step of a client.

The headers here are those that a client decides on. What carries a request has headers of its own
(the host, the length of the body, where a redirection came from), which no part of this library
reads.
-/

set_option autoImplicit false

namespace DeviceRegistry.Client

/-- The statuses by which a reply can send a request elsewhere. -/
def redirectStatuses : List Nat := [301, 302, 303, 307, 308]

/-- Whether a reply sends the request elsewhere: it has one of the statuses, and a header that says
where to go. Such a reply is followed and not handed back. -/
def Reply.redirects : Reply → Bool
  | .response status headers _ | .cut status headers | .stalled status headers =>
    redirectStatuses.contains status &&
      headers.any fun h => h.1.map Char.toLower = "location"
  | .closed | .silence => false

/-- A redirection: the status of the reply that redirects, where it leads, and what is sent there.
The statuses 307 and 308 ask for the same request once more and 303 for one that reads. After 301
and 302 it is left to what carries the requests, and not the same for each of its releases. -/
structure Redirection where
  status : Nat
  /-- The path and the query of the URL that it leads to. -/
  target : String
  /-- Whether that URL has another host or another port. -/
  elsewhere : Bool := false
  /-- Whether the same request is sent once more, and not one that reads. -/
  repeats : Bool
  isRedirect : status ∈ redirectStatuses := by decide
  isDue : (status = 307 ∨ status = 308 → repeats = true) ∧ (status = 303 → repeats = false) := by
    decide

/-- What becomes of a request: the redirections that are followed, and the reply that is handed
back. Where a redirection cannot be followed, as nobody answers there or as it is the eleventh, the
client has no response, and the connection counts as closed. -/
structure Exchange where
  followed : List Redirection
  reply : Reply
  few : followed.length ≤ 10 := by decide
  isLast : reply.redirects = false := by decide

end DeviceRegistry.Client
