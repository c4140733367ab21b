import DeviceRegistry.Text.Character
import DeviceRegistry.Text.Utf8

/-!
# `DeviceRegistry.Url.Percent`: bytes that a URL cannot hold

A character that has no place in a part of a URL is written as the bytes of its UTF-8 form, each as
`%` and two hexadecimal digits. Which characters these are depends on the part (`EncodeSet`);
characters past ASCII and controls never have a place.
-/

set_option autoImplicit false

namespace DeviceRegistry.Url

open DeviceRegistry.Text (hexDigit hexValue?)

/-- The printable characters of ASCII that a part of a URL encodes. -/
abbrev EncodeSet := List Char

/-- What is encoded in the path of a URL without segments, and in opaque hosts. -/
def controlSet : EncodeSet := []

/-- What is encoded in a fragment. -/
def fragmentSet : EncodeSet := [' ', '"', '<', '>', '\x60']

/-- What is encoded in a query. -/
def querySet : EncodeSet := [' ', '"', '#', '<', '>']

/-- What is encoded in a query of a scheme with hosts. -/
def specialQuerySet : EncodeSet := '\'' :: querySet

/-- What is encoded in a path. -/
def pathSet : EncodeSet := fragmentSet ++ ['#', '?', '\x7b', '\x7d']

/-- What is encoded in a segment that is appended to a path. -/
def segmentSet : EncodeSet := pathSet ++ ['/', '%']

/-- What is encoded in a segment that is appended to a path of a scheme with hosts. -/
def specialSegmentSet : EncodeSet := segmentSet ++ ['\\']

/-- What is encoded in a user name or password. -/
def userInfoSet : EncodeSet := pathSet ++ ['/', ':', ';', '=', '@', '[', '\\', ']', '^', '|']

/-- Whether a character is encoded. -/
def isEncoded (set : EncodeSet) (c : Char) : Bool :=
  c.toNat < 0x20 || 0x7E < c.toNat || set.contains c

/-- The digit for a number below 16, in upper case. -/
def upperHexDigit (n : Nat) : Char := (hexDigit n).toUpper

/-- The encoded form of a byte. -/
def encodeByte (b : UInt8) : List Char :=
  ['%', upperHexDigit (b.toNat / 16), upperHexDigit (b.toNat % 16)]

/-- The form of a character in a part of a URL. -/
def encodeChar (set : EncodeSet) (c : Char) : List Char :=
  if isEncoded set c then (Text.bytes c.toString).flatMap encodeByte else [c]

/-- The form of a text in a part of a URL. -/
def percentEncode (set : EncodeSet) (s : List Char) : String :=
  String.ofList (s.flatMap (encodeChar set))

/-- The bytes that an encoded text stands for. A `%` without two digits stands for itself. -/
def percentDecode : List UInt8 → List UInt8
  | [] => []
  | [a] => [a]
  | [a, b] => [a, b]
  | a :: b :: c :: r =>
    if a = 0x25 then
      match hexValue? (Char.ofNat b.toNat), hexValue? (Char.ofNat c.toNat) with
      | some m, some n => UInt8.ofNat (m * 16 + n) :: percentDecode r
      | _, _ => a :: percentDecode (b :: c :: r)
    else a :: percentDecode (b :: c :: r)

end DeviceRegistry.Url
