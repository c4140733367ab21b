import DeviceRegistry.Proofs.Credential.DecodeAll

/-!
# `DeviceRegistry.Proofs.Credential.Batch`: payloads with many credentials

How the outcome of a payload comes about from its elements, and which secret a refusal names. Main
statements:

* `firstFault?_eq_some_iff`: the fault that is reported has none before it.
* `HasShape.decode_eq_error_iff`: an object that can only break rules of its secrets is refused for
  the first that does.
* `decodeAll_batch`: the laws of payloads.
-/

set_option autoImplicit false

namespace DeviceRegistry

open DeviceRegistry.Json

/-- The secret at an index breaks a rule. Secrets of an unknown type have no rules. -/
def Secrets.Breaks : Secrets → (index : Nat) → SecretFault → Prop
  | password l, n, f => ∃ s, l[n]? = some s ∧ s.fault? = some f
  | psk l, n, f => ∃ s, l[n]? = some s ∧ s.fault? = some f
  | certificate l, n, f => ∃ s, l[n]? = some s ∧ s.fault? = some f
  | generic _ _ _, _, _ => False

/-- A secret breaks a rule where the list of faults has one. A secret without rules has no fault,
and keeps its place in the list. -/
theorem Secrets.breaks_iff {s : Secrets} {n : Nat} {f : SecretFault} :
    s.Breaks n f ↔ s.faults[n]? = some (some f) := by
  cases s with
  | password l | psk l | certificate l => simp [Breaks, faults]
  | generic name l extra => simp [Breaks, faults, List.getElem?_replicate]

namespace Credential

variable {ms : Members} {c : Credential} {err : RegistryError}

/-! ### The first fault -/

/-- Counting from one more gives one more, and the same fault. -/
theorem firstFault?_succ {k : Nat} {l : List (Option SecretFault)} :
    firstFault? (k + 1) l = (firstFault? k l).map fun p => (p.1 + 1, p.2) := by
  induction l generalizing k with
  | nil => rfl
  | cons o l ih =>
    cases o with
    | none => exact ih
    | some f => rfl

/-- The fault that is reported has none before it. It is what makes the index in the message that of
the first secret that breaks a rule. -/
theorem firstFault?_eq_some_iff {l : List (Option SecretFault)} {n : Nat} {f : SecretFault} :
    firstFault? 0 l = some (n, f) ↔
      l[n]? = some (some f) ∧ ∀ m < n, ∀ g, l[m]? ≠ some (some g) := by
  -- A fault at the head is the first one, at index zero. Else the rest decides, one index earlier.
  induction l generalizing n with
  | nil => simp [firstFault?]
  | cons o l ih =>
    cases o with
    | some g =>
      cases n with
      | zero => simp [firstFault?]
      | succ n =>
        refine iff_of_false (by simp [firstFault?]) fun h => ?_
        exact h.2 0 (Nat.zero_lt_succ n) g rfl
    | none =>
      rw [firstFault?, firstFault?_succ]
      cases n with
      | zero => simp
      | succ n =>
        have hzero : ∀ g, (none :: l)[0]? ≠ some (some g) := by simp
        rw [Nat.forall_lt_succ_left, and_iff_right hzero]
        simp only [List.getElem?_cons_succ]
        rw [← ih]
        simp

/-! ### Objects that may break rules -/

/-- An object has all that its type asks for. Only the rules of its secrets are left to check. -/
structure HasShape (ms : Members) (c : Credential) : Prop where
  typeName : required ms "type" typePattern = .ok c.typeName
  authId : ∃ authId, required ms "auth-id" authIdPattern = .ok authId
  fields : decodeAs c.typeName ms = .ok c

/-- Where all else is right, an object is decoded if no secret of it breaks a rule. -/
theorem HasShape.decode (h : HasShape ms c) : decode ms = c.validate.map fun _ => c := by
  obtain ⟨authId, hauthId⟩ := h.authId
  rw [Credential.decode, h.typeName, except_bind_ok, hauthId, except_bind_ok, h.fields,
    except_bind_ok]
  cases c.validate <;> rfl

/-- An object that can only break rules of its secrets is refused for the first that does, with its
index and what the rule says. -/
theorem HasShape.decode_eq_error_iff (h : HasShape ms c) :
    Credential.decode ms = .error err ↔ ∃ n f, c.secrets.Breaks n f ∧
      (∀ m < n, ∀ g, ¬ c.secrets.Breaks m g) ∧
      err = .invalidCredential c.typeName s!"secret #{n}: {f.message}" := by
  simp only [h.decode, Secrets.breaks_iff, validate, ← and_assoc]
  simp only [← ne_eq, ← firstFault?_eq_some_iff]
  cases firstFault? 0 c.secrets.faults with
  | none => simp
  | some p =>
    obtain ⟨n, f⟩ := p
    simp [eq_comm]

/-! ### Payloads -/

/-- What is no object is passed over, so an array of such values counts as an empty one. -/
theorem objectsOf_of_no_objects {vs : List Value} (h : ∀ v ∈ vs, ∀ ms, v ≠ .object ms) :
    objectsOf vs = [] := by
  rw [List.eq_nil_iff_forall_not_mem]
  intro ms hms
  exact h _ (mem_objectsOf_iff.1 hms) ms rfl

/-- A value that is refused is refused with an error of validation: an array for one of its objects,
and any other value for not being an array. -/
theorem isValidation_of_decodeArray {v : Value} (h : decodeArray v = .error err) :
    err.isValidation = true := by
  cases v with
  | array vs => exact isValidation_of_decodeAll h
  | _ =>
    cases h
    rfl

/-- So is a body, whether its text is malformed or its value is refused. A text that is no JSON
counts as invalid data like a credential that breaks a rule, and not as a fault of the server. -/
theorem isValidation_of_decodeBody {body : List UInt8} (h : decodeBody body = .error err) :
    err.isValidation = true := by
  unfold decodeBody at h
  split at h
  · cases h
    rfl
  · split at h
    · exact isValidation_of_decodeArray h
    · cases h
      rfl

/-- The laws of payloads:

* They are decoded exactly when each of their objects is, to one credential for each object, in
  order. A failure is that of the first object that cannot be decoded, whatever follows it.
* Documents that are no objects do not count, wherever they stand. Documents in a row are decoded
  one part after the other, and the first error is the error.
* Every error blames the payload, with status 400. An object that has all that its type asks for
  is refused exactly when a secret breaks a rule, and the error tells the least index of such a
  secret and what that secret breaks. -/
theorem decodeAll_batch :
    (∀ vs, (∃ cs, decodeAll vs = .ok cs) ↔ ∀ ms, .object ms ∈ vs → ∃ c, decode ms = .ok c) ∧
    (∀ vs cs, decodeAll vs = .ok cs ↔
      List.Forall₂ (fun ms c => decode ms = .ok c) (objectsOf vs) cs) ∧
    (∀ vs err, decodeAll vs = .error err ↔
      ∃ before ms after, vs = before ++ .object ms :: after ∧
        (∀ ms, .object ms ∈ before → ∃ c, decode ms = .ok c) ∧ decode ms = .error err) ∧
    (∀ xs others ys, (∀ v ∈ others, ∀ ms, v ≠ .object ms) →
      decodeAll (xs ++ others ++ ys) = decodeAll (xs ++ ys)) ∧
    (∀ xs ys, decodeAll (xs ++ ys) = do
      let cs ← decodeAll xs
      let ds ← decodeAll ys
      return cs ++ ds) ∧
    (∀ err, ((∃ vs, decodeAll vs = .error err) ∨ (∃ v, decodeArray v = .error err) ∨
        ∃ body, decodeBody body = .error err) →
      err.isValidation = true ∧ err.status.code = 400) ∧
    ∀ ms c, HasShape ms c → ∀ err, decode ms = .error err ↔
      ∃ n f, c.secrets.Breaks n f ∧ (∀ m < n, ∀ g, ¬ c.secrets.Breaks m g) ∧
        err = .invalidCredential c.typeName s!"secret #{n}: {f.message}" := by
  refine ⟨fun vs => exists_decodeAll_iff, fun vs cs => decodeAll_eq_ok_iff, ?_, ?_,
    decodeAll_append, ?_, fun ms c h err => h.decode_eq_error_iff⟩
  · intro vs err
    simp only [decodeAll_eq_error_iff, exists_decodeAll_iff]
  · intro xs others ys h
    rw [decodeAll, objectsOf_append, objectsOf_append, objectsOf_of_no_objects h, List.append_nil,
      ← objectsOf_append, decodeAll]
  -- Every error of a batch is one of a credential or of the body, and all of these are the fault of
  -- the caller.
  · intro err h
    have hvalidation : err.isValidation = true := by
      rcases h with ⟨vs, h⟩ | ⟨v, h⟩ | ⟨body, h⟩
      · exact isValidation_of_decodeAll h
      · exact isValidation_of_decodeArray h
      · exact isValidation_of_decodeBody h
    refine ⟨hvalidation, ?_⟩
    rw [(RegistryError.status_of_isValidation hvalidation).1]
    rfl

/-- Pre-shared keys of which only the first is there. -/
def twoKeys : Members :=
  [("auth-id", .string "sensor-1"),
    ("secrets", .array [.object [("key", .string "c2VjcmV0")], .object [("key", .string "")],
      .object [("key", .string "")]]),
    ("type", .string "psk")]

/-- A payload is refused for the second key, whatever stands around the object. Items that are no
objects are passed over, so the error does not move when some are put in. -/
theorem decodeAll_batch_twoKeys :
    decodeAll [.null, .object twoKeys, .object []] =
      .error (.invalidCredential "psk" "secret #1: 'key' field must be set") ∧
    decodeAll [.null, .object twoKeys, .string "psk", .array [], .object []] =
      .error (.invalidCredential "psk" "secret #1: 'key' field must be set") ∧
    (RegistryError.invalidCredential "psk" "secret #1: 'key' field must be set").status.code =
      400 := by
  obtain ⟨-, -, herror, hothers, -, hstatus, hrules⟩ := decodeAll_batch
  have hshape : HasShape twoKeys
      ⟨{ authId := "sensor-1" }, .psk [{ key := "c2VjcmV0" }, { key := "" }, { key := "" }]⟩ := by
    refine ⟨except_eq_ok_of_toOption ?_, ⟨"sensor-1", except_eq_ok_of_toOption ?_⟩,
      except_eq_ok_of_toOption ?_⟩ <;> decide +kernel
  -- The first key is one, the second is not.
  have hrefused : decode twoKeys =
      .error (.invalidCredential "psk" "secret #1: 'key' field must be set") := by
    refine (hrules _ _ hshape _).2 ⟨1, .noKey, ⟨_, rfl, by decide +kernel⟩, ?_, rfl⟩
    rintro m hm g ⟨s, hs, hfault⟩
    obtain rfl : m = 0 := Nat.lt_one_iff.1 hm
    cases hs
    have hlawful : PskSecret.fault? { key := "c2VjcmV0" } = none := by decide +kernel
    rw [hlawful] at hfault
    cases hfault
  have hbatch : decodeAll [.null, .object twoKeys, .object []] =
      .error (.invalidCredential "psk" "secret #1: 'key' field must be set") :=
    (herror _ _).2 ⟨[.null], twoKeys, [.object []], rfl, by simp, hrefused⟩
  refine ⟨hbatch, ?_, (hstatus _ (.inl ⟨_, hbatch⟩)).2⟩
  have hinserted := hothers [.null, .object twoKeys] [.string "psk", .array []] [.object []]
    (by simp)
  exact hinserted.trans hbatch

end Credential

end DeviceRegistry
