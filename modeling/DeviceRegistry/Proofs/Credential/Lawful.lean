import DeviceRegistry.Credential.Codec
import DeviceRegistry.Proofs.Steps

/-!
# `DeviceRegistry.Proofs.Credential.Lawful`: the rules of credentials

Which credentials the registry accepts, said without the checks: the class of characters of a type
and of an identifier, the window of a secret, what a password and a key must hold, and the names
that the other members of an unknown type may not take. Main statements:

* `PasswordSecret.fault?_eq_none_iff`, `PskSecret.fault?_eq_none_iff`,
  `CertificateSecret.fault?_eq_none_iff`: a secret has no fault exactly when it obeys the rules.
* `Credential.validate_eq_ok_iff`: a credential passes exactly when all its secrets do.
* `Credential.required_eq_ok_iff`: what a member that must be there has to be.
-/

set_option autoImplicit false

namespace DeviceRegistry

open DeviceRegistry.Json (Value Members)

/-! ### Secrets -/

/-- An instant comes before another. -/
def Instant.Before (a b : Instant) : Prop :=
  a.seconds < b.seconds ∨ (a.seconds = b.seconds ∧ a.nanos < b.nanos)

/-- An instant that is not at or before another comes after it. -/
theorem Instant.le_eq_false_iff {a b : Instant} : a.le b = false ↔ b.Before a := by
  rw [Instant.le, Instant.Before, Bool.or_eq_false_iff, decide_eq_false_iff_not,
    Bool.and_eq_false_imp, beq_iff_eq]
  simp only [decide_eq_false_iff_not]
  omega

/-- A window with two bounds starts before it ends. -/
def SecretInfo.IsLawful (i : SecretInfo) : Prop :=
  ∀ b a, i.notBefore = some b → i.notAfter = some a → b.Before a

/-- A window has no fault exactly when it starts before it ends, or one of its bounds is open. So
the check of the program and the rule of the specification are the same, for every kind of secret.
-/
theorem SecretInfo.fault?_eq_none_iff {i : SecretInfo} : i.fault? = none ↔ i.IsLawful := by
  unfold SecretInfo.fault? SecretInfo.IsLawful
  cases i.notBefore with
  | none => simp
  | some b =>
    cases i.notAfter with
    | none => simp
    | some a =>
      cases h : a.le b with
      | false => simpa [h] using Instant.le_eq_false_iff.1 h
      | true =>
        have hbefore : ¬ b.Before a := fun hb => by
          rw [Instant.le_eq_false_iff.2 hb] at h
          cases h
        simp [h, hbefore]

/-- The rules of a password: a hash with its function, or a plain password that is not empty, and
no salt without a hash. -/
structure PasswordSecret.IsLawful (s : PasswordSecret) : Prop where
  window : s.info.IsLawful
  hashOrPlain : s.hash = none ∨ s.plain = none
  hashFunction : s.hash ≠ none → s.hashFunction ≠ none
  salt : s.salt ≠ none → s.hash ≠ none
  plain : s.plain ≠ some ""

/-- A password has no fault exactly when it obeys the rules. The rules are checked one after the
other, and each check is the negation of one of them. -/
theorem PasswordSecret.fault?_eq_none_iff {s : PasswordSecret} :
    s.fault? = none ↔ s.IsLawful := by
  have hrules : s.IsLawful ↔ s.info.IsLawful ∧ (s.hash = none ∨ s.plain = none) ∧
      (s.hash ≠ none → s.hashFunction ≠ none) ∧ (s.salt ≠ none → s.hash ≠ none) ∧
      s.plain ≠ some "" :=
    ⟨fun h => ⟨h.1, h.2, h.3, h.4, h.5⟩, fun h => ⟨h.1, h.2.1, h.2.2.1, h.2.2.2.1, h.2.2.2.2⟩⟩
  rw [hrules, PasswordSecret.fault?, Option.orElse_eq_orElse, Option.orElse_eq_or,
    Option.or_eq_none_iff, SecretInfo.fault?_eq_none_iff]
  -- The window is checked first. Of the other rules only those with or without a hash can fail.
  refine and_congr_right fun _ => ?_
  cases s.hash with
  | none => cases s.salt <;> simp
  | some h => cases s.plain <;> simp

/-- The rules of a pre-shared key: there is one, and it is base64. -/
structure PskSecret.IsLawful (s : PskSecret) : Prop where
  window : s.info.IsLawful
  present : s.key ≠ ""
  base64 : ∃ bytes, s.keyBytes = .ok bytes

/-- A pre-shared key has no fault exactly when it obeys the rules. Whether it is base64 is asked
only when there is a key. -/
theorem PskSecret.fault?_eq_none_iff {s : PskSecret} : s.fault? = none ↔ s.IsLawful := by
  have hrules : s.IsLawful ↔ s.info.IsLawful ∧ s.key ≠ "" ∧ ∃ bytes, s.keyBytes = .ok bytes :=
    ⟨fun h => ⟨h.1, h.2, h.3⟩, fun h => ⟨h.1, h.2.1, h.2.2⟩⟩
  rw [hrules, PskSecret.fault?, Option.orElse_eq_orElse, Option.orElse_eq_or,
    Option.or_eq_none_iff, SecretInfo.fault?_eq_none_iff]
  -- The key is decoded only when there is one.
  refine and_congr_right fun _ => ?_
  by_cases hkey : s.key = ""
  · simp [hkey]
  · cases s.keyBytes <;> simp [hkey]

/-- The rules of a client certificate are those of all secrets. -/
def CertificateSecret.IsLawful (s : CertificateSecret) : Prop := s.info.IsLawful

/-- A client certificate has no fault exactly when it obeys the rules, which are those of its
window. -/
theorem CertificateSecret.fault?_eq_none_iff {s : CertificateSecret} :
    s.fault? = none ↔ s.IsLawful :=
  SecretInfo.fault?_eq_none_iff

/-! ### Credentials -/

namespace Secrets

/-- Every secret obeys the rules of its kind. Secrets of an unknown type have no rules. -/
def AllLawful : Secrets → Prop
  | password l => ∀ s ∈ l, s.IsLawful
  | psk l => ∀ s ∈ l, s.IsLawful
  | certificate l => ∀ s ∈ l, s.IsLawful
  | generic _ _ _ => True

/-- Every secret obeys its rules exactly when none has a fault. What has no rules has no faults. -/
theorem allLawful_iff {s : Secrets} : s.AllLawful ↔ ∀ f ∈ s.faults, f = none := by
  cases s with
  | password l => simp [AllLawful, faults, PasswordSecret.fault?_eq_none_iff]
  | psk l => simp [AllLawful, faults, PskSecret.fault?_eq_none_iff]
  | certificate l => simp [AllLawful, faults, CertificateSecret.fault?_eq_none_iff]
  | generic name l extra => simp [AllLawful, faults]

/-- The names that have a meaning of their own in every credential. -/
def reservedNames : List String := ["type", "auth-id", "enabled", "comment", "ext", "secrets"]

/-- A type that the registry is said not to know is none that it knows, and its other members take
no reserved name. -/
def IsApart : Secrets → Prop
  | generic name _ extra =>
    name ∉ ["hashed-password", "psk", "x509-cert"] ∧ ∀ k ∈ reservedNames, extra.get? k = none
  | _ => True

end Secrets

/-- A text of small letters, digits and dashes that is not empty. -/
def IsTypeName (s : String) : Prop :=
  s ≠ "" ∧ ∀ c ∈ s.toList, ('a' ≤ c ∧ c ≤ 'z') ∨ ('0' ≤ c ∧ c ≤ '9') ∨ c = '-'

/-- A text of letters, digits and the marks `-`, `_`, `=` and `.` that is not empty. -/
def IsAuthId (s : String) : Prop :=
  s ≠ "" ∧ ∀ c ∈ s.toList, ('a' ≤ c ∧ c ≤ 'z') ∨ ('A' ≤ c ∧ c ≤ 'Z') ∨ ('0' ≤ c ∧ c ≤ '9') ∨
    c = '-' ∨ c = '_' ∨ c = '=' ∨ c = '.'

namespace Credential

/-- The rules of a credential. -/
structure IsLawful (c : Credential) : Prop where
  typeName : IsTypeName c.typeName
  authId : IsAuthId c.info.authId
  secrets : c.secrets.AllLawful
  apart : c.secrets.IsApart

/-! ### Checks -/

/-- There is no first fault exactly when there is none at all, wherever counting starts. -/
theorem firstFault?_eq_none_iff {n : Nat} {l : List (Option SecretFault)} :
    firstFault? n l = none ↔ ∀ f ∈ l, f = none := by
  induction l generalizing n with
  | nil => simp [firstFault?]
  | cons f l ih =>
    cases f with
    | none => simp [firstFault?, ih]
    | some f => simp [firstFault?]

/-- A credential passes exactly when all its secrets obey their rules. -/
theorem validate_eq_ok_iff {c : Credential} : c.validate = .ok () ↔ c.secrets.AllLawful := by
  rw [Secrets.allLawful_iff, ← firstFault?_eq_none_iff (n := 0), validate]
  cases firstFault? 0 c.secrets.faults <;> simp

/-- A pattern matches texts that are not empty and all of whose characters it admits. -/
theorem isMatch_iff {p : Text.Pattern} {s : String} :
    p.isMatch s = true ↔ s ≠ "" ∧ ∀ c ∈ s.toList, p.admits c = true := by
  simp [Text.Pattern.isMatch]

/-- The pattern of types describes them: small letters, digits and dashes. -/
theorem typePattern_isMatch_iff {s : String} : typePattern.isMatch s = true ↔ IsTypeName s := by
  rw [isMatch_iff, IsTypeName]
  simp [typePattern, Text.isLower, Text.isDigit, or_assoc]

/-- The pattern of identifiers describes them: letters, digits and four marks. -/
theorem authIdPattern_isMatch_iff {s : String} : authIdPattern.isMatch s = true ↔ IsAuthId s := by
  rw [isMatch_iff, IsAuthId]
  simp [authIdPattern, Text.isAlphanumeric, Text.isLower, Text.isUpper, Text.isDigit, or_assoc]

/-- A member that must be there is a text that matches its pattern. It fails where the member is
missing, is no text or does not match. -/
theorem required_eq_ok_iff {ms : Members} {field s : String} {p : Text.Pattern} :
    required ms field p = .ok s ↔ ms.get? field = some (.string s) ∧ p.isMatch s = true := by
  unfold required
  cases h : ms.get? field with
  | none => simp
  | some v =>
    cases v with
    | string t =>
      -- The empty text is refused before the pattern is tried, and no pattern here matches it.
      constructor
      · intro hok
        dsimp only at hok
        split at hok
        · cases hok
        · split at hok
          · rename_i hp
            cases hok
            exact ⟨rfl, hp⟩
          · cases hok
      · rintro ⟨hs, hp⟩
        cases hs
        show (if s = "" then _ else if p.isMatch s then _ else _) = Except.ok s
        rw [if_neg (isMatch_iff.1 hp).1, if_pos hp]
    | _ => simp

end Credential

end DeviceRegistry
