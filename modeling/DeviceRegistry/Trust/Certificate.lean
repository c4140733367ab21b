import DeviceRegistry.Trust.Armor
import DeviceRegistry.Trust.Element

/-!
# `DeviceRegistry.Trust.Certificate`: certificates that a client can trust

A certificate to check servers against comes in a file. What makes it one is its form only: who it
is for and until when does not matter here. There is an old version without extensions and a new one
with them. Extensions that are not understood do no harm unless they are critical.
-/

set_option autoImplicit false

namespace DeviceRegistry.Trust

namespace Certificate

/-- An extension of a certificate. -/
structure Extension where
  name : List UInt8
  isCritical : Bool
  value : List UInt8
  deriving DecidableEq, Repr

namespace Extension

/-- Reads an extension. -/
def read : Reader Extension := fun s => do
  let (name, r) ← Element.contentOf Element.identifier s
  let (isCritical, r) ← Element.switch r
  let (value, r) ← Element.contentOf Element.octets r
  return (⟨name, isCritical, value⟩, r)

/-- The name of a standard extension. -/
def standard (n : UInt8) : List UInt8 := [0x55, 0x1D, n]

/-- What a key may be used for. -/
def keyUsage : List UInt8 := standard 15

/-- The extensions that are understood, other than that one: other names, whether the certificate is
one of an authority, for which names, where it is revoked, and what for. -/
def understood : List (List UInt8) := [17, 19, 30, 31, 37].map standard

/-- Whether an extension can stand in a certificate. -/
def isAllowed (e : Extension) : Bool :=
  if e.name = keyUsage then true
  else if understood.contains e.name then
    (whole (Element.contentOf Element.sequence) e.value).isSome
  else !e.isCritical

/-- Whether extensions can stand together: those that are understood do so once each. -/
def areAllowed (es : List Extension) : Bool :=
  es.all isAllowed &&
    (keyUsage :: understood).all fun name => es.countP (·.name = name) ≤ 1

end Extension

/-- Reads extensions up to the end, if there are any. -/
def extensions? (s : List UInt8) : Option (List Extension) :=
  if s.isEmpty then some []
  else do
    let list ← whole (Element.contentOf (Element.numbered 3)) s
    let items ← whole (Element.contentOf Element.sequence) list
    (← Element.contentsOf Element.sequence items.length items).mapM (whole Extension.read)

/-- Passes over issuer, validity, subject and key. -/
def skipParties : Reader Unit := fun s => do
  let (_, r) ← Element.contentOf Element.sequence s
  let (_, r) ← Element.contentOf Element.sequence r
  let (_, r) ← Element.contentOf Element.sequence r
  let (_, r) ← Element.contentOf Element.sequence r
  return ((), r)

/-- Whether the signed part of a certificate can be trusted, given how it is signed. A part that
begins with no version is one of the old version. -/
def isTrustable (algorithm signed : List UInt8) : Bool :=
  let check : Option Bool := do
    let version := Element.contentOf (Element.numbered 0) signed
    let body := (version.map Prod.snd).getD signed
    let (_, r) ← Element.contentOf Element.integer body
    let (named, r) ← Element.contentOf Element.sequence r
    let ((), r) ← skipParties r
    match version with
    | none => return r.isEmpty
    | some (v, _) =>
      let isNew := whole (Element.contentOf Element.integer) v = some [2]
      return isNew && named = algorithm && Extension.areAllowed (← extensions? r)
  check.getD false

/-- Whether bytes are a certificate that can be trusted. -/
def isAnchor (bytes : List UInt8) : Bool :=
  let check : Option Bool := do
    let parts ← whole (Element.contentOf Element.sequence) bytes
    let (signed, r) ← Element.contentOf Element.sequence parts
    let (algorithm, r) ← Element.contentOf Element.sequence r
    let _ ← whole Element.wholeBytes r
    return isTrustable algorithm signed
  check.getD false

end Certificate

/-- Whether all certificates of a file can be trusted. A file may have none. -/
def isTrustFile (file : List UInt8) : Bool :=
  match Armor.read? file with
  | some sections =>
    sections.all fun s => s.label ≠ "CERTIFICATE" || Certificate.isAnchor s.content
  | none => false

end DeviceRegistry.Trust
