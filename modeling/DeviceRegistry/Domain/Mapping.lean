import DeviceRegistry.Domain.Mapping.Table
import DeviceRegistry.Text.Composed

/-!
# `DeviceRegistry.Domain.Mapping`: the characters of a domain

A domain is compared without regard to case, width and other forms of the same character. `mapped`
brings a text to the form in which it is compared. Of characters that a domain passes over nothing
is left, and with a character that no domain can hold there is no such form.
-/

set_option autoImplicit false

namespace DeviceRegistry.Domain

/-- What stands for some characters. -/
inductive Images where
  /-- For characters at the same distance from each other, images at one distance from them. -/
  | run (first last stride image : Nat)
  /-- For characters that follow each other, images one by one. -/
  | each (first : Nat) (images : List (List Nat))
  deriving DecidableEq, Repr

namespace Images

/-- The images that a word of the table gives. -/
def ofWord (word : List Char) : Images :=
  let sides := Text.splitAt '>' word
  let source := Text.splitAt '/' (sides.headD [])
  let range := Text.CodeRange.ofWord (source.headD [])
  let images := (Text.splitAt ',' (sides.getLastD [])).map (Text.codesOf '+')
  if (sides.headD []).contains '-' then
    .run range.first range.last (if 1 < source.length then 2 else 1) ((images.headD []).headD 0)
  else .each range.first images

/-- What stands for a code point. -/
def image? (n : Nat) : Images → Option (List Nat)
  | run first last stride image =>
    if first ≤ n ∧ n ≤ last ∧ (n - first) % stride = 0 then some [image + (n - first)] else none
  | each first images => if first ≤ n then images[n - first]? else none

end Images

/-- What stands for the characters of a domain beyond ASCII. -/
def images : List Images := (Text.words imageTable).map Images.ofWord

/-- What a domain makes of a character. -/
def mapChar (c : Char) : Option (List Char) :=
  if c.toNat < 0x80 then some [c.toLower]
  else if ignored.holds c then some []
  else if disallowed.holds c then none
  else some (((images.findSome? (·.image? c.toNat)).map (·.map Char.ofNat)).getD [c])

/-- The form of a text in which domains are compared. -/
def mapped? (s : List Char) : Option (List Char) :=
  (s.mapM mapChar).map fun parts => Text.composed parts.flatten

/-- Whether a text is already in that form. -/
def isMapped (s : List Char) : Bool := mapped? s = some s

end DeviceRegistry.Domain
