/-!
# `DeviceRegistry.Domain.Punycode`: labels beyond ASCII

A label of a domain that holds characters past ASCII is written with ASCII characters only: those it
has, and then for every other character in ascending order how far to go to its place, as numbers of
variable length in base 36. `encode` and `decode` are the two directions.
-/

set_option autoImplicit false

namespace DeviceRegistry.Domain.Punycode

/-- The digits of the format: letters, then numerals. -/
def digitOf (n : Nat) : Char :=
  if n < 26 then Char.ofNat (0x61 + n) else Char.ofNat (0x30 + (n - 26))

/-- The value of a digit. -/
def valueOf? (c : Char) : Option Nat :=
  if 'a' ≤ c ∧ c ≤ 'z' then some (c.toNat - 0x61)
  else if 'A' ≤ c ∧ c ≤ 'Z' then some (c.toNat - 0x41)
  else if '0' ≤ c ∧ c ≤ '9' then some (c.toNat - 0x30 + 26)
  else none

/-- The bias after a number, by which the next one is split into digits. -/
def adapt (delta points : Nat) (first : Bool) : Nat :=
  let delta := if first then delta / 700 else delta / 2
  let delta := delta + delta / points
  let rec reduce : (fuel delta k : Nat) → Nat
    | 0, delta, k => k + 36 * delta / (delta + 38)
    | fuel + 1, delta, k =>
      if 455 < delta then reduce fuel (delta / 35) (k + 36) else k + 36 * delta / (delta + 38)
  reduce 64 delta 0

/-- The threshold of the digit at position `k`. -/
def threshold (k bias : Nat) : Nat := if k ≤ bias then 1 else if bias + 26 ≤ k then 26 else k - bias

/-- A number in digits of variable base. -/
def number (bias : Nat) : (fuel k q : Nat) → List Char
  | 0, _, _ => []
  | fuel + 1, k, q =>
    let t := threshold k bias
    if q < t then [digitOf q]
    else digitOf (t + (q - t) % (36 - t)) :: number bias fuel (k + 36) ((q - t) / (36 - t))

/-- Where an encoder stands: the distance gone, the bias, how many characters are placed. -/
structure Place where
  delta : Nat
  bias : Nat
  placed : Nat

/-- Goes once through a label and writes the places of the character `n`. -/
def round (n basic : Nat) : List Nat → Place → List Char × Place
  | [], p => ([], p)
  | c :: r, p =>
    if c < n then round n basic r { p with delta := p.delta + 1 }
    else if c = n then
      let digits := number p.bias 64 36 p.delta
      let bias := adapt p.delta (p.placed + 1) (p.placed = basic)
      let (rest, p) := round n basic r ⟨0, bias, p.placed + 1⟩
      (digits ++ rest, p)
    else round n basic r p

/-- Writes the characters from `n` on, in ascending order. -/
def rounds (label : List Nat) (basic : Nat) : (fuel n : Nat) → Place → List Char
  | 0, _, _ => []
  | fuel + 1, n, p =>
    match (label.filter (n ≤ ·)).min? with
    | none => []
    | some m =>
      let (digits, q) := round m basic label { p with delta := p.delta + (m - n) * (p.placed + 1) }
      digits ++ rounds label basic fuel (m + 1) { q with delta := q.delta + 1 }

/-- Writes a label. -/
def encode (label : List Char) : List Char :=
  let basic := label.filter fun c => c.toNat < 0x80
  let points := label.map Char.toNat
  basic ++ (if basic.isEmpty then [] else ['-']) ++
    rounds points basic.length (label.length + 1) 0x80 ⟨0, 72, basic.length⟩

/-- Reads a number: its value and what follows it. -/
def readNumber (bias : Nat) : (k weight value : Nat) → List Char → Option (Nat × List Char)
  | _, _, _, [] => none
  | k, weight, value, c :: r => do
    let d ← valueOf? c
    let t := threshold k bias
    let value := value + d * weight
    if 0x100000000 ≤ value then none
    else if d < t then some (value, r)
    else readNumber bias (k + 36) (weight * (36 - t)) value r

/-- Reads the characters that are not in ASCII into a label. -/
def insertAll : (fuel n i bias : Nat) → (label : List Char) → List Char → Option (List Char)
  | 0, _, _, _, _, _ => none
  | _, _, _, _, label, [] => some label
  | fuel + 1, n, i, bias, label, rest => do
    let (step, rest) ← readNumber bias 36 1 0 rest
    let length := label.length + 1
    let bias := adapt step length (i = 0 && n = 0x80)
    let n := n + (i + step) / length
    let i := (i + step) % length
    if n < 0x110000 ∧ ¬(0xD800 ≤ n ∧ n < 0xE000) then
      insertAll fuel n (i + 1) bias (label.take i ++ Char.ofNat n :: label.drop i) rest
    else none

/-- Reads a label. A hyphen separates the characters of ASCII, if there are any, from the
numbers. -/
def decode (text : List Char) : Option (List Char) :=
  let rest := (text.reverse.takeWhile (· ≠ '-')).reverse
  let basic := text.take (text.length - rest.length - 1)
  if basic.isEmpty then insertAll (text.length + 1) 0x80 0 72 [] text
  else insertAll (text.length + 1) 0x80 0 72 basic rest

end DeviceRegistry.Domain.Punycode
