/-!
# `DeviceRegistry.Number.Binary64`: finite binary fractions of 64 bits

A number that is no 64-bit integer is kept as a finite IEEE 754 double. All arithmetic here is exact
arithmetic on natural numbers followed by one rounding to the nearest double, a tie going to the
even significand, so results do not depend on the machine.
-/

set_option autoImplicit false

namespace DeviceRegistry

/-- A double, as its 64 bits: sign, 11 bits of exponent, 52 bits of fraction. -/
structure Binary64 where
  bits : UInt64
  deriving DecidableEq, Repr, Inhabited

namespace Binary64

/-- The sign bit. -/
def signBit : Nat := 0x8000000000000000

/-- The bit in front of the fraction of a normal number, which is not stored. -/
def leadBit : Nat := 0x10000000000000

/-- Whether the sign bit is set. Zero has both signs. -/
def isNegative (x : Binary64) : Bool := x.bits.toNat ≥ signBit

/-- The bits without the sign. -/
def unsigned (x : Binary64) : Nat := x.bits.toNat % signBit

/-- The significand `m` of the magnitude `m * 2 ^ x.exponent`. -/
def significand (x : Binary64) : Nat :=
  let m := x.unsigned % leadBit
  if x.unsigned < leadBit then m else leadBit + m

/-- The exponent of the magnitude `x.significand * 2 ^ e`. -/
def exponent (x : Binary64) : Int :=
  if x.unsigned < leadBit then -1074 else (x.unsigned / leadBit : Nat) - 1075

/-- Whether the magnitude is zero. -/
def isZero (x : Binary64) : Bool := x.unsigned == 0

/-- A double from its sign and its other bits. -/
def ofParts (negative : Bool) (unsigned : Nat) : Binary64 :=
  ⟨UInt64.ofNat (unsigned % signBit + if negative then signBit else 0)⟩

/-- The same magnitude with the other sign. -/
def neg (x : Binary64) : Binary64 := ofParts (!x.isNegative) x.unsigned

/-- `num / den` rounded to an integer, a tie going to the even one. -/
def roundDiv (num den : Nat) : Nat :=
  let q := num / den
  let r := num % den
  if 2 * r < den then q
  else if 2 * r = den then q + q % 2
  else q + 1

/-- `num / den` divided by `2 ^ e`, as a fraction. -/
def scaleDown (num den : Nat) (e : Int) : Nat × Nat :=
  if e < 0 then (num <<< e.natAbs, den) else (num, den <<< e.natAbs)

/-- The least exponent at which the significand of `num / den` has at most 53 bits, as far as the
format reaches down. -/
def exponentOf (num den : Nat) : Int :=
  let e : Int := max (Nat.log2 num - Nat.log2 den - 53 : Int) (-1074)
  let (n, d) := scaleDown num den e
  if n / d < 2 * leadBit then e else e + 1

/-- The double nearest to `num / den`, or none when that is past the largest one. -/
def round (negative : Bool) (num den : Nat) : Option Binary64 :=
  if num = 0 then some (ofParts negative 0)
  else
    let e := exponentOf num den
    let (n, d) := scaleDown num den e
    -- a significand that rounds up to a further bit carries into the exponent bits by itself
    let unsigned := (e + 1074).toNat * leadBit + roundDiv n d
    if unsigned < 0x7FF * leadBit then some (ofParts negative unsigned) else none

/-- The magnitude of a double as a fraction. -/
def ratio (x : Binary64) : Nat × Nat :=
  if x.exponent < 0 then (x.significand, 1 <<< x.exponent.natAbs)
  else (x.significand <<< x.exponent.natAbs, 1)

/-- The double nearest to the magnitude of a product, or none when it is too large. -/
def mul? (x y : Binary64) : Option Binary64 :=
  round (x.isNegative != y.isNegative) (x.ratio.1 * y.ratio.1) (x.ratio.2 * y.ratio.2)

/-- The double nearest to the magnitude of a quotient, or none when it is too large. -/
def div? (x y : Binary64) : Option Binary64 :=
  round (x.isNegative != y.isNegative) (x.ratio.1 * y.ratio.2) (x.ratio.2 * y.ratio.1)

/-- The double nearest to a natural number, or none when it is too large. -/
def ofNat? (n : Nat) : Option Binary64 := round false n 1

/-- The double nearest to a decimal fraction `digits * 10 ^ e`, or none when it is too large. -/
def ofDecimal? (negative : Bool) (digits : Nat) (e : Int) : Option Binary64 :=
  let power := Nat.pow 10 e.natAbs
  if e < 0 then round negative digits power else round negative (digits * power) 1

end Binary64

end DeviceRegistry
