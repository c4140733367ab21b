/-!
# `DeviceRegistry.Trust.Element`: elements of binary documents

A certificate is a tree of elements. Each has a tag that says what it is, its length, and its
content, which for some tags is a sequence of elements again. There is exactly one form for each
length, and nothing may be left over at the end.
-/

set_option autoImplicit false

namespace DeviceRegistry.Trust

/-- A reader of the start of some bytes. -/
abbrev Reader (α : Type) := List UInt8 → Option (α × List UInt8)

/-- An element. -/
structure Element where
  tag : UInt8
  content : List UInt8
  deriving DecidableEq, Repr

/-- Reads with nothing left over. -/
def whole {α : Type} (read : Reader α) (s : List UInt8) : Option α :=
  match read s with
  | some (a, []) => some a
  | _ => none

namespace Element

/-! ### Tags -/

def boolean : UInt8 := 0x01
def integer : UInt8 := 0x02
def bits : UInt8 := 0x03
def octets : UInt8 := 0x04
def identifier : UInt8 := 0x06
def sequence : UInt8 := 0x30

/-- The tag of a part that is known by its number. -/
def numbered (n : UInt8) : UInt8 := 0xA0 + n

/-! ### Reading -/

/-- Reads a length, in the shortest of its forms. Longer elements are none. -/
def readLength : Reader Nat
  | 0x81 :: a :: r => if 0x80 ≤ a then some (a.toNat, r) else none
  | 0x82 :: a :: b :: r =>
    let n := a.toNat * 256 + b.toNat
    if 0xFF < n ∧ n < 0xFFFF then some (n, r) else none
  | a :: r => if a < 0x80 then some (a.toNat, r) else none
  | [] => none

/-- Reads an element. Tags of several bytes are not known. -/
def read : Reader Element
  | tag :: r => do
    let (length, r) ← readLength r
    if tag.toNat % 32 = 31 ∨ r.length < length then none
    else some (⟨tag, r.take length⟩, r.drop length)
  | [] => none

/-- Reads the content of an element with a certain tag. -/
def contentOf (tag : UInt8) : Reader (List UInt8) := fun s => do
  let (e, r) ← read s
  if e.tag = tag then some (e.content, r) else none

/-- Reads as many elements as there are, at most `fuel` of them. -/
def contentsOf (tag : UInt8) : (fuel : Nat) → List UInt8 → Option (List (List UInt8))
  | _, [] => some []
  | 0, _ => none
  | fuel + 1, s => do
    let (c, r) ← contentOf tag s
    return c :: (← contentsOf tag fuel r)

/-- Reads bits of whole bytes. -/
def wholeBytes : Reader (List UInt8) := fun s => do
  let (c, r) ← contentOf bits s
  match c with
  | 0 :: c => some (c, r)
  | _ => none

/-- Reads a switch, which is off when it is left out. -/
def switch : Reader Bool := fun s =>
  if s.head? = some boolean then do
    let (c, r) ← contentOf boolean s
    match c with
    | [0xFF] => some (true, r)
    | [0x00] => some (false, r)
    | _ => none
  else some (false, s)

end Element

end DeviceRegistry.Trust
