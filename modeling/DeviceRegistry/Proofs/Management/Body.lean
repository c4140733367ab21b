import DeviceRegistry.Management.Endpoint
import DeviceRegistry.Proofs.Steps

/-!
# `DeviceRegistry.Proofs.Management.Body`: bodies that an endpoint accepts

An endpoint takes the items of a body first and the credentials of the items then; `decodeBody`
takes the credentials of a body at once. Main statements:

* `itemsOf_decodeAll_iff`: the two ways find the same credentials in a body that is not too long.
* `status_of_itemsOf`: a body that is too long is refused with its own status, any other with that
  of a bad request.
-/

set_option autoImplicit false

namespace DeviceRegistry

open DeviceRegistry.Json (Value)

namespace Management.Endpoint

variable {limit : Nat} {body : List UInt8} {cs : List Credential}

/-- The items of a body are those of the array that it is, unless it is too long or empty. So
whether a body is accepted does not depend on what stands in the array. -/
theorem itemsOf_eq_ok_iff {vs : List Value} :
    itemsOf limit body = .ok vs ↔
      body.length ≤ limit ∧ body ≠ [] ∧ Value.ofBytes body = .ok (.array vs) := by
  unfold itemsOf
  by_cases hlong : limit < body.length
  · have hle : ¬ body.length ≤ limit := Nat.not_le.2 hlong
    simp [hlong, hle]
  · have hle : body.length ≤ limit := Nat.not_lt.1 hlong
    rw [if_neg hlong]
    by_cases hempty : body = []
    · simp [hempty]
    · rw [if_neg (by simpa using hempty)]
      cases h : Value.ofBytes body with
      | error e => simp
      | ok v => cases v <;> simp [hle, hempty]

/-- The credentials of a body are those of the items of the array that it is. The length of the body
is not asked here. -/
theorem decodeBody_eq_ok_iff :
    Credential.decodeBody body = .ok cs ↔
      body ≠ [] ∧
        ∃ vs, Value.ofBytes body = .ok (.array vs) ∧ Credential.decodeAll vs = .ok cs := by
  unfold Credential.decodeBody
  by_cases hempty : body = []
  · simp [hempty]
  · rw [if_neg (by simpa using hempty)]
    cases h : Value.ofBytes body with
    | error e => simp
    | ok v => cases v <;> simp [hempty, Credential.decodeArray]

/-- A body that is not too long has the same credentials in either way. So what the endpoint accepts
can be said by `decodeBody`, which the command line uses for files. -/
theorem itemsOf_decodeAll_iff :
    (∃ vs, itemsOf limit body = .ok vs ∧ Credential.decodeAll vs = .ok cs) ↔
      body.length ≤ limit ∧ Credential.decodeBody body = .ok cs := by
  rw [decodeBody_eq_ok_iff]
  constructor
  · rintro ⟨vs, hitems, hdecode⟩
    obtain ⟨hle, hempty, hvalue⟩ := itemsOf_eq_ok_iff.1 hitems
    exact ⟨hle, hempty, vs, hvalue, hdecode⟩
  · rintro ⟨hle, hempty, vs, hvalue, hdecode⟩
    exact ⟨vs, itemsOf_eq_ok_iff.2 ⟨hle, hempty, hvalue⟩, hdecode⟩

/-- A body that is too long is refused for that, any other as a bad request. The length is looked at
first. -/
theorem status_of_itemsOf {err : RegistryError} (h : itemsOf limit body = .error err) :
    (limit < body.length → err.status = .payloadTooLarge) ∧
    (body.length ≤ limit → err.status = .badRequest) := by
  unfold itemsOf at h
  -- The length is checked before anything is read, so it alone decides between the two.
  split at h
  · rename_i hlong
    cases h
    exact ⟨fun _ => rfl, fun hle => absurd hlong (Nat.not_lt.2 hle)⟩
  · rename_i hlong
    refine ⟨fun hlt => absurd hlt hlong, fun _ => ?_⟩
    split at h
    · cases h
      rfl
    · split at h
      · cases h
      · cases h
        rfl
      · cases h
        rfl

end Management.Endpoint

namespace Credential

/-- A body with one credential, which holds one key. -/
def keyedText : String :=
  "[\x7b\"type\":\"psk\",\"auth-id\":\"sensor-1\",\"secrets\":[\x7b\"key\":\"c2VjcmV0\"\x7d]\x7d]"

/-- The credential of that body. -/
def keyed : Credential := ⟨{ authId := "sensor-1" }, .psk [{ key := "c2VjcmV0" }]⟩

/-- The body has that credential. Statements on bodies that are accepted are tried on it, as a body
without credentials would not tell whether its secrets are looked at. -/
theorem decodeBody_keyedText : decodeBody (Text.bytes keyedText) = .ok [keyed] := rfl

end Credential

end DeviceRegistry
