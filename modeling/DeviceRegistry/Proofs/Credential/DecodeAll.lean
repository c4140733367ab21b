import Mathlib.Data.List.Forall2
import DeviceRegistry.Proofs.Credential.Decode

/-!
# `DeviceRegistry.Proofs.Credential.DecodeAll`: decoding many credentials

The objects among documents are decoded one by one, and the first that fails decides. Main
statements:

* `decodeAll_eq_ok_iff`: there is one credential for each object, in order.
* `decodeAll_append`: documents in a row are decoded one part after the other.
* `decodeAll_eq_error_iff`: a failure is that of the first object that cannot be decoded.
* `isValidation_of_decodeAll`: a failure blames the payload.
-/

set_option autoImplicit false

namespace DeviceRegistry

open DeviceRegistry.Json

/-- Errors that blame the payload are reported as bad requests, and count as mistakes of the
client. -/
theorem RegistryError.status_of_isValidation {err : RegistryError} (h : err.isValidation = true) :
    err.status = .badRequest ∧ err.side = .client := by
  cases err with
  | missingField _ | patternMismatch _ _ _ | mutuallyExclusive _ _ | invalidCredential _ _
  | malformedPayload _ => exact ⟨rfl, rfl⟩
  | payloadTooLarge _ _ | invalidParameter _ _ | methodNotAllowed _ | encoding _ | invalidStatus _
  | classification _ | service _ => cases h

namespace Credential

variable {ms : Members} {vs : List Value} {err : RegistryError}

/-! ### One object -/

/-- A member that must be there is missing, is no text or does not match its pattern; all of these
are to be blamed on the payload. -/
theorem isValidation_of_required {field : String} {p : Text.Pattern}
    (h : required ms field p = .error err) : err.isValidation = true := by
  unfold required at h
  split at h
  · cases h
    rfl
  · cases h
    rfl
  · split at h
    · cases h
      rfl
    · split at h
      · cases h
      · cases h
        rfl
  · cases h
    rfl

/-- Fields that cannot be read are to be blamed on the payload. -/
theorem isValidation_of_fieldsOf {α : Type} {name : String} {secret : Decoder α}
    (h : fieldsOf name secret ms = .error err) : err.isValidation = true := by
  unfold fieldsOf at h
  split at h
  · cases h
  · cases h
    rfl

/-- So it is with every type, since only taking the fields can fail once the type is known. The
three known types and the kept ones differ in which fields those are. -/
theorem isValidation_of_decodeAs {name : String} (h : decodeAs name ms = .error err) :
    err.isValidation = true := by
  -- Whatever the type is, only taking the fields can fail.
  have hfields : ∀ {α : Type} {secret : Decoder α} {ms' : Members}
      {build : CredentialInfo × List α × Members → Credential},
      (fieldsOf name secret ms' >>= fun f => .ok (build f)) = .error err →
      err.isValidation = true := by
    intro α secret ms' build h
    rcases except_bind_eq_error.1 h with hfail | ⟨f, -, hbuild⟩
    · exact isValidation_of_fieldsOf hfail
    · cases hbuild
  unfold decodeAs at h
  split at h
  · exact hfields h
  · split at h
    · exact hfields h
    · split at h
      · exact hfields h
      · exact hfields h

/-- An object that cannot be decoded is to blame itself, whichever of the checks it fails: a name
that is missing, a field of the wrong shape, or a rule of its secrets. -/
theorem isValidation_of_decode (h : decode ms = .error err) : err.isValidation = true := by
  unfold decode at h
  rcases except_bind_eq_error.1 h with htype | ⟨name, -, h⟩
  · exact isValidation_of_required htype
  rcases except_bind_eq_error.1 h with hauthId | ⟨authId, -, h⟩
  · exact isValidation_of_required hauthId
  rcases except_bind_eq_error.1 h with hshape | ⟨c, -, h⟩
  · exact isValidation_of_decodeAs hshape
  rcases except_bind_eq_error.1 h with hrules | ⟨-, -, h⟩
  · unfold validate at hrules
    split at hrules
    · cases hrules
    · cases hrules
      rfl
  · cases h

/-! ### All objects -/

/-- There is one credential for each object, in order. The induction is on the objects, which are
decoded one after the other. -/
theorem decodeAll_eq_ok_iff {cs : List Credential} :
    decodeAll vs = .ok cs ↔ List.Forall₂ (fun ms c => decode ms = .ok c) (objectsOf vs) cs := by
  unfold decodeAll
  induction objectsOf vs generalizing cs with
  | nil => cases cs <;> simp
  | cons ms rest ih =>
    rw [List.mapM_cons, except_bind_eq_ok]
    constructor
    · rintro ⟨c, hc, h⟩
      obtain ⟨cs', hrest, h⟩ := except_bind_eq_ok.1 h
      cases h
      exact .cons hc (ih.1 hrest)
    · intro h
      cases h with
      | cons hc hrest =>
        refine ⟨_, hc, ?_⟩
        rw [ih.2 hrest]
        rfl

/-- The objects among documents are those that stand among them. So a property of all objects of a
body is one of the body. -/
theorem mem_objectsOf_iff : ms ∈ objectsOf vs ↔ .object ms ∈ vs := by
  induction vs with
  | nil => simp [objectsOf]
  | cons v vs ih => cases v <;> simp [objectsOf, ih]

/-- All objects are decoded exactly when each of them is. So an order of them that can be decoded
can be decoded in any other. -/
theorem exists_decodeAll_iff :
    (∃ cs, decodeAll vs = .ok cs) ↔ ∀ ms, .object ms ∈ vs → ∃ c, decode ms = .ok c := by
  simp only [decodeAll_eq_ok_iff, ← mem_objectsOf_iff]
  induction objectsOf vs with
  | nil => simp
  | cons ms rest ih =>
    rw [List.forall_mem_cons, ← ih]
    constructor
    · rintro ⟨cs, hcs⟩
      cases hcs with
      | cons hc hrest => exact ⟨⟨_, hc⟩, _, hrest⟩
    · rintro ⟨⟨c, hc⟩, cs, hcs⟩
      exact ⟨c :: cs, .cons hc hcs⟩

/-- Objects are found in one part of the documents after the other. -/
theorem objectsOf_append (xs ys : List Value) :
    objectsOf (xs ++ ys) = objectsOf xs ++ objectsOf ys := by
  induction xs with
  | nil => rfl
  | cons v xs ih => cases v <;> simp [objectsOf, ih]

/-- Documents in a row are decoded one part after the other, and those of the second part only if
the first part has been decoded. -/
theorem decodeAll_append (xs ys : List Value) :
    decodeAll (xs ++ ys) = do
      let cs ← decodeAll xs
      let ds ← decodeAll ys
      return cs ++ ds := by
  rw [decodeAll, objectsOf_append, List.mapM_append]
  rfl

/-- A failure is that of the first object that cannot be decoded. The induction is on the documents:
the first of them fails, or it is passed over or decoded and the others fail. -/
theorem decodeAll_eq_error_iff : decodeAll vs = .error err ↔
    ∃ before ms after, vs = before ++ .object ms :: after ∧
      (∃ cs, decodeAll before = .ok cs) ∧ decode ms = .error err := by
  constructor
  · intro h
    induction vs with
    | nil => cases h
    | cons v vs ih =>
      rw [← List.singleton_append, decodeAll_append] at h
      rcases except_bind_eq_error.1 h with hfirst | ⟨cs, hfirst, h⟩
      · cases v with
        | object ms =>
          obtain hms | ⟨c, -, h⟩ := except_bind_eq_error.1 hfirst
          · exact ⟨[], ms, vs, rfl, ⟨[], rfl⟩, hms⟩
          · cases h
        | _ => cases hfirst
      · rcases except_bind_eq_error.1 h with hrest | ⟨ds, -, h⟩
        -- The first document is decoded, so that it stands before the one that is not.
        · obtain ⟨before, ms, after, rfl, ⟨ds, hds⟩, hms⟩ := ih hrest
          refine ⟨v :: before, ms, after, rfl, ⟨cs ++ ds, ?_⟩, hms⟩
          rw [← List.singleton_append, decodeAll_append, hfirst, except_bind_ok, hds]
          rfl
        · cases h
  · rintro ⟨before, ms, after, rfl, ⟨cs, hcs⟩, hms⟩
    rw [decodeAll_append, hcs, except_bind_ok, decodeAll, objectsOf, List.mapM_cons, hms]
    rfl

/-- A failure is one object's, and so the payload is to blame. -/
theorem isValidation_of_decodeAll (h : decodeAll vs = .error err) : err.isValidation = true := by
  obtain ⟨-, ms, -, -, -, hms⟩ := decodeAll_eq_error_iff.1 h
  exact isValidation_of_decode hms

end Credential

end DeviceRegistry
