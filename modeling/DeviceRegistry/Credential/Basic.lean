import DeviceRegistry.Credential.Secret
import DeviceRegistry.Error

/-!
# `DeviceRegistry.Credential.Basic`: credentials

A credential binds an authentication identifier to a list of secrets of one kind. A type that the
registry does not know is kept as it is: its secrets and its other members stay documents.
`document` writes a credential in the order of its fields, the type first.
-/

set_option autoImplicit false

namespace DeviceRegistry

open DeviceRegistry.Json (Value Members)

/-- What every credential carries, whatever its type. -/
structure CredentialInfo where
  authId : String
  enabled : Option Bool := none
  comment : Option String := none
  /-- Members of others, sorted by name. -/
  ext : Members := []
  deriving DecidableEq, Repr

/-- The secrets of a credential and what else its type brings along. -/
inductive Secrets where
  | password (secrets : List PasswordSecret)
  | psk (secrets : List PskSecret)
  | certificate (secrets : List CertificateSecret)
  /-- Secrets of a type that the registry does not know, and the members of the credential that are
  not common to all types. -/
  | generic (typeName : String) (secrets : List Members) (extra : Members)
  deriving DecidableEq, Repr

/-- A credential. -/
structure Credential where
  info : CredentialInfo
  secrets : Secrets
  deriving DecidableEq, Repr

namespace Secrets

/-- The type of credentials with passwords. -/
def passwordType : String := "hashed-password"

/-- The type of credentials with pre-shared keys. -/
def pskType : String := "psk"

/-- The type of credentials with client certificates. -/
def certificateType : String := "x509-cert"

/-- The type of a credential with these secrets. -/
def typeName : Secrets → String
  | password _ => passwordType
  | psk _ => pskType
  | certificate _ => certificateType
  | generic name _ _ => name

/-- How many secrets there are. -/
def count : Secrets → Nat
  | password l => l.length
  | psk l => l.length
  | certificate l => l.length
  | generic _ l _ => l.length

/-- The documents of the secrets. -/
def documents : Secrets → List Value
  | password l => l.map PasswordSecret.document
  | psk l => l.map PskSecret.document
  | certificate l => l.map CertificateSecret.document
  | generic _ l _ => l.map .object

/-- The members of a credential that are not common to all types. -/
def extra : Secrets → Members
  | generic _ _ extra => extra
  | _ => []

/-- The rules that the secrets break, one or none for each. Secrets of an unknown type have no
rules. -/
def faults : Secrets → List (Option SecretFault)
  | password l => l.map PasswordSecret.fault?
  | psk l => l.map PskSecret.fault?
  | certificate l => l.map CertificateSecret.fault?
  | generic _ l _ => l.map fun _ => none

end Secrets

namespace Credential

/-- The type of a credential. -/
def typeName (c : Credential) : String := c.secrets.typeName

/-- Whether a credential may be used. A flag that is not set means that it may. -/
def isEnabled (c : Credential) : Bool := c.info.enabled.getD true

/-- The first fault of a list, with its place in the list. -/
def firstFault? : (index : Nat) → List (Option SecretFault) → Option (Nat × SecretFault)
  | _, [] => none
  | n, some f :: _ => some (n, f)
  | n, none :: r => firstFault? (n + 1) r

/-- Checks the secrets of a credential and reports the first that breaks a rule. -/
def validate (c : Credential) : Except RegistryError Unit :=
  match firstFault? 0 c.secrets.faults with
  | none => .ok ()
  | some (n, f) => .error (.invalidCredential c.typeName s!"secret #{n}: {f.message}")

/-- Writes a credential. A name that the other members repeat stands twice. -/
def document (c : Credential) : Value :=
  .ofPresent ([
    some ("type", .string c.typeName),
    some ("auth-id", .string c.info.authId),
    c.info.enabled.map fun b => ("enabled", .bool b),
    c.info.comment.map fun s => ("comment", .string s),
    if c.info.ext.isEmpty then none else some ("ext", .object c.info.ext),
    some ("secrets", .array c.secrets.documents)] ++ c.secrets.extra.map some)

end Credential

end DeviceRegistry
