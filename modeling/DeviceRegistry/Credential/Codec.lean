import DeviceRegistry.Credential.Basic
import DeviceRegistry.Text.Character

/-!
# `DeviceRegistry.Credential.Codec`: credentials as documents

`decode` turns an object into a credential: the type and the identifier are checked first, then the
shape that the type asks for, then the rules of the secrets. `decodeAll` passes over what is no
object and stops at the first credential that fails. `encode` gives the value that a credential is
stored and sent as: its document with all members sorted, a repeated name counting with its last
value.
-/

set_option autoImplicit false

namespace DeviceRegistry.Credential

open DeviceRegistry.Json (Value Members Decoder Field Record)
open DeviceRegistry.Text (Pattern isLower isDigit isAlphanumeric)

/-! ### Allowed texts -/

/-- The types of credentials. -/
def typePattern : Pattern where
  text := "^[a-z0-9-]+$"
  admits c := isLower c || isDigit c || c = '-'

/-- The identifiers of credentials. -/
def authIdPattern : Pattern where
  text := "^[a-zA-Z0-9-_=\\.]+$"
  admits c := isAlphanumeric c || c = '-' || c = '_' || c = '=' || c = '.'

/-- The text of a member that must be there and match a pattern. -/
def required (ms : Members) (field : String) (p : Pattern) : Except RegistryError String :=
  match ms.get? field with
  | none => .error (.missingField field)
  | some .null => .error (.missingField field)
  | some (.string s) =>
    if s = "" then .error (.missingField field)
    else if p.isMatch s then .ok s
    else .error (.patternMismatch field s p.text)
  | some v => .error (.patternMismatch field v.render p.text)

/-! ### Decoding -/

/-- The fields that are common to all types, as fields of a credential in the making. -/
def infoFields {α : Type} : List (Json.Field (CredentialInfo × α)) :=
  [.of "auth-id" .string fun v (i, a) => ({ i with authId := v }, a),
    .of "enabled" (.optional .boolean) fun v (i, a) => ({ i with enabled := v }, a),
    .of "comment" (.optional .string) fun v (i, a) => ({ i with comment := v }, a),
    .of "ext" .members fun v (i, a) => ({ i with ext := v }, a)]

/-- The fields of a credential whose secrets are read by `secret`. -/
def record {α : Type} (secret : Decoder α) : Record (CredentialInfo × List α) where
  expected := "credential"
  blank := ({ authId := "" }, [])
  own := [.of "secrets" (.list secret) fun v (i, _) => (i, v)]
  shared := infoFields

/-- Decodes the members of a credential: what is common to all types, the secrets, and the members
that are left. A member that does not fit is reported under the type. -/
def fieldsOf {α : Type} (typeName : String) (secret : Decoder α) (ms : Members) :
    Except RegistryError (CredentialInfo × List α × Members) :=
  match (record secret).ofMembers ms with
  | .ok ((info, secrets), others) => .ok (info, secrets, others)
  | .error m => .error (.invalidCredential typeName m.message)

/-- Decodes an object by its type, without looking at the rules of the secrets. -/
def decodeAs (typeName : String) (ms : Members) : Except RegistryError Credential :=
  if typeName = Secrets.passwordType then do
    let (info, secrets, _) ← fieldsOf typeName PasswordSecret.record.decoder ms
    return ⟨info, .password secrets⟩
  else if typeName = Secrets.pskType then do
    let (info, secrets, _) ← fieldsOf typeName PskSecret.record.decoder ms
    return ⟨info, .psk secrets⟩
  else if typeName = Secrets.certificateType then do
    let (info, secrets, _) ← fieldsOf typeName CertificateSecret.record.decoder ms
    return ⟨info, .certificate secrets⟩
  else do
    let (info, secrets, extra) ← fieldsOf typeName .members (ms.erase "type")
    return ⟨info, .generic typeName secrets extra⟩

/-- Decodes an object. -/
def decode (ms : Members) : Except RegistryError Credential := do
  let typeName ← required ms "type" typePattern
  let _ ← required ms "auth-id" authIdPattern
  let c ← decodeAs typeName ms
  c.validate
  return c

/-- The objects among documents. -/
def objectsOf : List Value → List Members
  | [] => []
  | .object ms :: r => ms :: objectsOf r
  | _ :: r => objectsOf r

/-- Decodes the objects among documents, up to the first that fails. -/
def decodeAll (vs : List Value) : Except RegistryError (List Credential) :=
  (objectsOf vs).mapM decode

/-- Decodes a payload, which must be an array. -/
def decodeArray : Value → Except RegistryError (List Credential)
  | .array vs => decodeAll vs
  | v => .error (.malformedPayload s!"expected a JSON array, got {v.kind}")

/-- Decodes a payload from its bytes. -/
def decodeBody (body : List UInt8) : Except RegistryError (List Credential) :=
  if body.isEmpty then .error (.malformedPayload "request body is empty")
  else match Value.ofBytes body with
    | .ok v => decodeArray v
    | .error e => .error (.malformedPayload e.message)

/-- Reads a credential as part of a text. -/
def decoder : Decoder Credential :=
  Decoder.members.convert fun ms => (decode ms).mapError fun e => .rule e.message

/-! ### Encoding -/

/-- The value that a credential is stored and sent as. -/
def encode (c : Credential) : Value := c.document.normalize

/-- The values of credentials, in order. -/
def encodeAll (cs : List Credential) : List Value := cs.map encode

end DeviceRegistry.Credential
