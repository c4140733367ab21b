import DeviceRegistry.Json.Decoder
import DeviceRegistry.Text.Base64
import DeviceRegistry.Time.Reader
import DeviceRegistry.Time.Text

/-!
# `DeviceRegistry.Credential.Secret`: secrets

A secret proves who a device is: a password or its hash, a pre-shared key, or a client certificate.
Every kind shares a `SecretInfo` with the window in which it is valid. `fault?` finds the rule that
a secret breaks, beyond what its shape already guarantees; `document` and `decoder` write and read
it.
-/

set_option autoImplicit false

namespace DeviceRegistry

open DeviceRegistry.Json (Value Members Decoder Field Record)

/-! ### What all secrets share -/

/-- What every secret carries, whatever its kind. -/
structure SecretInfo where
  id : Option String := none
  enabled : Option Bool := none
  notBefore : Option Instant := none
  notAfter : Option Instant := none
  comment : Option String := none
  deriving DecidableEq, Repr

/-- Why a secret is refused. -/
inductive SecretFault where
  /-- The window of validity ends before it starts. -/
  | emptyWindow (notBefore notAfter : Instant)
  | hashAndPlain
  | hashWithoutFunction
  | saltWithoutHash
  | emptyPassword
  | noKey
  | malformedKey (e : Base64.Error)
  deriving DecidableEq, Repr

/-- The text of a fault. -/
def SecretFault.message : SecretFault → String
  | emptyWindow notBefore notAfter =>
    s!"'not-before' ({notBefore.display}) must be before 'not-after' ({notAfter.display})"
  | hashAndPlain => "'pwd-hash' and 'pwd-plain' must not be set at the same time"
  | hashWithoutFunction => "'hash-function' must be set when 'pwd-hash' is set"
  | saltWithoutHash => "'salt' requires 'pwd-hash' to be set"
  | emptyPassword => "'pwd-plain' must not be empty"
  | noKey => "'key' field must be set"
  | malformedKey e => s!"'key' is not valid base64: {e.message}"

namespace SecretInfo

/-- Whether a secret may be used. A flag that is not set means that it may. -/
def isEnabled (i : SecretInfo) : Bool := i.enabled.getD true

/-- Whether a secret is valid at an instant. Both bounds belong to the window, an open bound
holds. -/
def isValidAt (i : SecretInfo) (t : Instant) : Bool :=
  i.notBefore.all (·.le t) && i.notAfter.all (t.le ·)

/-- The rule of the shared fields: a window with two bounds is not empty. -/
def fault? (i : SecretInfo) : Option SecretFault :=
  match i.notBefore, i.notAfter with
  | some b, some a => if a.le b then some (.emptyWindow b a) else none
  | _, _ => none

/-- The members that are present. -/
def members (i : SecretInfo) : List (Option (String × Value)) :=
  [i.id.map fun s => ("id", .string s),
    i.enabled.map fun b => ("enabled", .bool b),
    i.notBefore.map fun t => ("not-before", .string t.render),
    i.notAfter.map fun t => ("not-after", .string t.render),
    i.comment.map fun s => ("comment", .string s)]

end SecretInfo

/-- Reads an instant. -/
def instantDecoder : Decoder Instant :=
  (Decoder.scalar "an RFC 3339 formatted date and time string" Value.asString?).refine fun s =>
    (Instant.parse s).mapError fun e => .rule e.message

/-- The fields of `SecretInfo`, as fields of a secret that changes its own by `update`. -/
def infoFields {σ : Type} (update : (SecretInfo → SecretInfo) → σ → σ) : List (Json.Field σ) :=
  [.of "id" (.optional .string) fun v => update fun i => { i with id := v },
    .of "enabled" (.optional .boolean) fun v => update fun i => { i with enabled := v },
    .of "not-before" (.optional instantDecoder) fun v => update fun i => { i with notBefore := v },
    .of "not-after" (.optional instantDecoder) fun v => update fun i => { i with notAfter := v },
    .of "comment" (.optional .string) fun v => update fun i => { i with comment := v }]

/-! ### Passwords -/

/-- A function that the hash of a password was made with. -/
inductive HashFunction where
  | sha256
  | sha512
  | bcrypt
  deriving DecidableEq, Repr

namespace HashFunction

/-- The name of a function in a document. -/
def name : HashFunction → String
  | sha256 => "sha-256"
  | sha512 => "sha-512"
  | bcrypt => "bcrypt"

/-- The functions by their names. -/
def named : List (String × HashFunction) :=
  [sha256, sha512, bcrypt].map fun f => (f.name, f)

/-- The function of a name. -/
def ofName? (name : String) : Option HashFunction := named.lookup name

/-- The text that reports a name of no function. -/
def unknownName : String := "Matching variant not found"

/-- Reads the name of a function. -/
def decoder : Decoder HashFunction := .choice named

end HashFunction

/-- The secret of a credential with passwords: a plain password for the registry to hash, or a hash
that was made before. -/
structure PasswordSecret where
  info : SecretInfo := {}
  hashFunction : Option HashFunction := none
  hash : Option String := none
  salt : Option String := none
  plain : Option String := none
  deriving DecidableEq, Repr

namespace PasswordSecret

/-- The rule that a secret breaks. -/
def fault? (s : PasswordSecret) : Option SecretFault :=
  s.info.fault? <|>
    match s.hash, s.plain with
    | some _, some _ => some .hashAndPlain
    | some _, none => if s.hashFunction.isNone then some .hashWithoutFunction else none
    | none, plain =>
      if s.salt.isSome then some .saltWithoutHash
      else if plain = some "" then some .emptyPassword
      else none

/-- Writes a secret. -/
def document (s : PasswordSecret) : Value :=
  .ofPresent (s.info.members ++
    [s.hashFunction.map fun f => ("hash-function", .string f.name),
      s.hash.map fun h => ("pwd-hash", .string h),
      s.salt.map fun h => ("salt", .string h),
      s.plain.map fun p => ("pwd-plain", .string p)])

/-- The fields of a secret. -/
def record : Record PasswordSecret where
  expected := "struct PasswordSecret"
  blank := {}
  own :=
    [.of "hash-function" (.optional HashFunction.decoder) fun v s => { s with hashFunction := v },
      .of "pwd-hash" (.optional .string) fun v s => { s with hash := v },
      .of "salt" (.optional .string) fun v s => { s with salt := v },
      .of "pwd-plain" (.optional .string) fun v s => { s with plain := v }]
  shared := infoFields fun f s => { s with info := f s.info }

end PasswordSecret

/-! ### Pre-shared keys -/

/-- The secret of a credential with pre-shared keys. -/
structure PskSecret where
  info : SecretInfo := {}
  /-- The key in base64. -/
  key : String := ""
  deriving DecidableEq, Repr

namespace PskSecret

/-- The bytes of the key. -/
def keyBytes (s : PskSecret) : Except Base64.Error (List UInt8) :=
  Base64.decode (Text.bytes s.key)

/-- The rule that a secret breaks. -/
def fault? (s : PskSecret) : Option SecretFault :=
  s.info.fault? <|>
    if s.key = "" then some .noKey
    else match s.keyBytes with
      | .ok _ => none
      | .error e => some (.malformedKey e)

/-- Writes a secret. -/
def document (s : PskSecret) : Value :=
  .ofPresent (s.info.members ++ [some ("key", .string s.key)])

/-- The fields of a secret. -/
def record : Record PskSecret where
  expected := "struct PskSecret"
  blank := {}
  own := [.of "key" .string fun v s => { s with key := v }]
  shared := infoFields fun f s => { s with info := f s.info }

end PskSecret

/-! ### Client certificates -/

/-- The secret of a credential with client certificates. The certificate itself is named by the
credential. -/
structure CertificateSecret where
  info : SecretInfo := {}
  deriving DecidableEq, Repr

namespace CertificateSecret

/-- The rule that a secret breaks. -/
def fault? (s : CertificateSecret) : Option SecretFault := s.info.fault?

/-- Writes a secret. -/
def document (s : CertificateSecret) : Value := .ofPresent s.info.members

/-- The fields of a secret. -/
def record : Record CertificateSecret where
  expected := "struct X509CertificateSecret"
  blank := {}
  own := []
  shared := infoFields fun f s => { s with info := f s.info }

end CertificateSecret

end DeviceRegistry
