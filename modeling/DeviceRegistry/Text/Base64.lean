/-!
# `DeviceRegistry.Text.Base64`: keys and passwords as base64

The standard alphabet with padding. `encode` writes groups of four symbols for three bytes; `decode`
reads exactly what `encode` writes and says where a text first departs from it: padding is required,
it stands only at the end of the last group, and the bits it leaves over are zero.
-/

set_option autoImplicit false

namespace DeviceRegistry.Base64

/-- Why a text is no base64. -/
inductive Error where
  /-- A byte that stands for no symbol where it stands. -/
  | symbol (offset : Nat) (byte : UInt8)
  /-- A single symbol is left over. -/
  | length (count : Nat)
  /-- The last symbol carries bits that belong to no byte. -/
  | lastSymbol (offset : Nat) (byte : UInt8)
  /-- The last group is not filled up. -/
  | padding
  deriving DecidableEq, Repr

/-- The text of an error. -/
def Error.message : Error → String
  | symbol offset byte => s!"Invalid symbol {byte.toNat}, offset {offset}."
  | length count => s!"Invalid input length: {count}"
  | lastSymbol offset byte => s!"Invalid last symbol {byte.toNat}, offset {offset}."
  | padding => "Invalid padding"

/-- The byte that fills up a group, `=`. -/
def pad : UInt8 := 0x3D

/-- The symbol for six bits. -/
def symbolOf (n : Nat) : UInt8 :=
  if n < 26 then UInt8.ofNat (0x41 + n)
  else if n < 52 then UInt8.ofNat (0x61 + (n - 26))
  else if n < 62 then UInt8.ofNat (0x30 + (n - 52))
  else if n = 62 then 0x2B else 0x2F

/-- The six bits that a symbol stands for. -/
def valueOf? (b : UInt8) : Option Nat :=
  let n := b.toNat
  if 0x41 ≤ n ∧ n ≤ 0x5A then some (n - 0x41)
  else if 0x61 ≤ n ∧ n ≤ 0x7A then some (n - 0x61 + 26)
  else if 0x30 ≤ n ∧ n ≤ 0x39 then some (n - 0x30 + 52)
  else if n = 0x2B then some 62
  else if n = 0x2F then some 63
  else none

/-- Writes bytes in groups of four symbols. -/
def encode : List UInt8 → List UInt8
  | [] => []
  | [a] => [symbolOf (a.toNat / 4), symbolOf (a.toNat % 4 * 16), pad, pad]
  | [a, b] =>
    [symbolOf (a.toNat / 4), symbolOf (a.toNat % 4 * 16 + b.toNat / 16),
      symbolOf (b.toNat % 16 * 4), pad]
  | a :: b :: c :: r =>
    symbolOf (a.toNat / 4) :: symbolOf (a.toNat % 4 * 16 + b.toNat / 16) ::
      symbolOf (b.toNat % 16 * 4 + c.toNat / 64) :: symbolOf (c.toNat % 64) :: encode r

/-- The value of the symbol at an offset. -/
def valueAt (offset : Nat) (b : UInt8) : Except Error Nat :=
  match valueOf? b with
  | some n => .ok n
  | none => .error (.symbol offset b)

/-- The three bytes of a full group. -/
def join (a b c d : Nat) : List UInt8 :=
  [UInt8.ofNat (a * 4 + b / 16), UInt8.ofNat (b % 16 * 16 + c / 4), UInt8.ofNat (c % 4 * 64 + d)]

/-- What the last group holds: its symbols' values with the bytes they were read from, and how many
fillers follow, the first of them at `firstPad`. -/
structure Tail where
  values : List (Nat × UInt8)
  pads : Nat
  firstPad : Nat

/-- Reads the last group. Padding may only follow two symbols and may not be followed by any. -/
def readTail (offset : Nat) : Tail → (index : Nat) → List UInt8 → Except Error Tail
  | t, _, [] => .ok t
  | t, index, b :: r =>
    if b = pad then
      if index < 2 then .error (.symbol (offset + index) b)
      else
        readTail offset
          { t with pads := t.pads + 1, firstPad := if t.pads = 0 then index else t.firstPad }
          (index + 1) r
    else if 0 < t.pads then .error (.symbol (offset + t.firstPad) pad)
    else
      match valueOf? b with
      | none => .error (.symbol (offset + index) b)
      | some n => readTail offset { t with values := t.values ++ [(n, b)] } (index + 1) r

/-- The bytes of the last group. -/
def finish (offset : Nat) (t : Tail) : Except Error (List UInt8) :=
  if t.values.length < 2 then .error (.length (offset + t.values.length))
  else if (t.pads + t.values.length) % 4 ≠ 0 then .error .padding
  else match t.values with
    | [(a, _), (b, last)] =>
      if b % 16 ≠ 0 then .error (.lastSymbol (offset + 1) last)
      else .ok [UInt8.ofNat (a * 4 + b / 16)]
    | [(a, _), (b, _), (c, last)] =>
      if c % 4 ≠ 0 then .error (.lastSymbol (offset + 2) last)
      else .ok [UInt8.ofNat (a * 4 + b / 16), UInt8.ofNat (b % 16 * 16 + c / 4)]
    | [(a, _), (b, _), (c, _), (d, _)] => .ok (join a b c d)
    | _ => .error .padding

/-- Reads the groups from an offset on. Every group but the last is full and without padding. -/
def decodeFrom (offset : Nat) : List UInt8 → Except Error (List UInt8)
  | a :: b :: c :: d :: e :: r => do
    let a ← valueAt offset a
    let b ← valueAt (offset + 1) b
    let c ← valueAt (offset + 2) c
    let d ← valueAt (offset + 3) d
    return join a b c d ++ (← decodeFrom (offset + 4) (e :: r))
  | last => do
    finish offset (← readTail offset ⟨[], 0, 0⟩ 0 last)

/-- Reads a base64 text. A foreign byte that stands alone behind full groups, such as a line end, is
reported before any other fault. -/
def decode (bs : List UInt8) : Except Error (List UInt8) :=
  match bs with
  | [] => .ok []
  | bs =>
    match bs.length % 4, bs.getLast? with
    | 1, some last =>
      if last ≠ pad ∧ valueOf? last = none then .error (.symbol (bs.length - 1) last)
      else decodeFrom 0 bs
    | _, _ => decodeFrom 0 bs

end DeviceRegistry.Base64
