import DeviceRegistry.Domain.Direction
import DeviceRegistry.Domain.Joining
import DeviceRegistry.Domain.Mapping
import DeviceRegistry.Domain.Punycode

/-!
# `DeviceRegistry.Domain.Ascii`: domains in ASCII

A domain is written with ASCII characters only: its labels in the form in which they are compared,
and those with other characters in Punycode behind `xn--`. A label that comes in this form must be
what such a label would have become.
-/

set_option autoImplicit false

namespace DeviceRegistry.Domain

/-- A label of a domain. -/
structure Label where
  /-- The characters that the label stands for. -/
  text : List Char
  /-- The same in ASCII. -/
  ascii : List Char
  deriving DecidableEq, Repr

/-- Whether a character is in ASCII. -/
def isAscii (c : Char) : Bool := c.toNat < 0x80

/-- The longest label that is put into Punycode. -/
def longestLabel : Nat := 1000

/-- The longest Punycode that is read. -/
def longestCode : Nat := 2000

/-- Reads what follows `xn--`. Something beyond ASCII must come of it, in the form in which labels
are compared. -/
def readCode? (code : List Char) : Option (List Char) := do
  if !code.all isAscii || longestCode < code.length then none
  let text ← Punycode.decode code
  if text.all isAscii || !isMapped text then none
  return text

namespace Label

/-- Reads a label in the form in which labels are compared. -/
def read? (s : List Char) : Option Label :=
  match s with
  | 'x' :: 'n' :: '-' :: '-' :: code => (readCode? code).map fun text => ⟨text, s⟩
  | _ =>
    if s.all isAscii then some ⟨s, s⟩
    else if longestLabel < s.length then none
    else some ⟨s, 'x' :: 'n' :: '-' :: '-' :: Punycode.encode s⟩

/-- Whether a label begins with no mark and has every joiner in its place. -/
def isValid (l : Label) : Bool := !l.text.head?.any Text.isMark && joinersInPlace [] l.text

end Label

/-- The characters of ASCII that a domain in a URL cannot hold: controls, the space, and what
separates the parts of a URL. -/
def isForbidden (c : Char) : Bool :=
  c.toNat ≤ 0x20 || c.toNat = 0x7F ||
    ['%', '#', '/', ':', '<', '>', '?', '@', '[', '\\', ']', '^', '|'].contains c

/-- Writes a domain with ASCII characters only, unless it is none. -/
def ascii? (s : List Char) : Option (List Char) := do
  let labels ← (Text.splitAt '.' (← mapped? s)).mapM Label.read?
  if !labels.all Label.isValid || !areOneWay (labels.map (·.text)) then none
  let written := (labels.map (·.ascii)).intersperse ['.'] |>.flatten
  if written.any isForbidden then none
  return written

end DeviceRegistry.Domain
