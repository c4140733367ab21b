import DeviceRegistry.Number.Binary64

/-!
# `DeviceRegistry.Number.Shortest`: the fewest digits that read back

`shortest` finds the decimal of fewest digits that rounds to a given double, and among those the one
nearest to it. A `Layout` then decides how digits and exponent are written.
-/

set_option autoImplicit false

namespace DeviceRegistry.Binary64

/-- A decimal fraction `digits * 10 ^ exponent`. -/
structure Decimal where
  digits : Nat
  exponent : Int
  deriving DecidableEq, Repr

/-- `n * 10 ^ e` as a fraction. -/
def Decimal.ratio (d : Decimal) : Nat × Nat :=
  if d.exponent < 0 then (d.digits, Nat.pow 10 d.exponent.natAbs)
  else (d.digits * Nat.pow 10 d.exponent.natAbs, 1)

/-- A magnitude in quarters of the last place: the value itself, and the two bounds of what rounds
to it. Below a power of two the lower neighbour is only half as far away. -/
structure Interval where
  value : Nat
  low : Nat
  high : Nat
  unit : Int
  closed : Bool

/-- The decimals that round to a double lie in this interval. -/
def interval (x : Binary64) : Interval :=
  let m := x.significand
  { value := 4 * m
    low := if m = leadBit ∧ -1074 < x.exponent then 4 * m - 1 else 4 * m - 2
    high := 4 * m + 2
    unit := x.exponent - 2
    closed := m % 2 = 0 }

/-- Compares a decimal with `n * 2 ^ unit`. -/
def Decimal.compareTo (d : Decimal) (n : Nat) (unit : Int) : Ordering :=
  let (p, q) := d.ratio
  if unit < 0 then compare (p <<< unit.natAbs) (n * q)
  else compare p (n <<< unit.natAbs * q)

/-- Whether a decimal lies in an interval. -/
def Interval.holds (i : Interval) (d : Decimal) : Bool :=
  let low := d.compareTo i.low i.unit
  let high := d.compareTo i.high i.unit
  if i.closed then low != .lt && high != .gt else low == .gt && high == .lt

/-- `n * 2 ^ unit` divided by `10 ^ e`, rounded down, and the remainder over the divisor. -/
def onGrid (n : Nat) (unit e : Int) : Nat × Nat × Nat :=
  let power := Nat.pow 10 e.natAbs
  let num := (if unit < 0 then n else n <<< unit.natAbs) * (if e < 0 then power else 1)
  let den := (if unit < 0 then 1 <<< unit.natAbs else 1) * (if e < 0 then 1 else power)
  (num / den, num % den, den)

/-- The least exponent `e` with the magnitude below `10 ^ e`, from an estimate that is at most one
too small. -/
def decimalExponent (x : Binary64) : Int :=
  let (n, d) := x.ratio
  -- 1233 / 4096 is just below the decimal logarithm of two
  let estimate : Int := Int.fdiv ((Nat.log2 n - Nat.log2 d - 1 : Int) * 1233) 4096
  let below (e : Int) : Bool :=
    if e < 0 then n * Nat.pow 10 e.natAbs < d else n < d * Nat.pow 10 e.natAbs
  if below estimate then estimate
  else if below (estimate + 1) then estimate + 1
  else estimate + 2

/-- The decimal of `count` digits nearest to a magnitude, when it rounds to it: of the two
neighbours on that grid the nearer one, the even one on a tie. -/
def nearest? (x : Binary64) (count : Nat) : Option Decimal :=
  let i := x.interval
  let e := x.decimalExponent - count
  let (q, r, den) := onGrid i.value i.unit e
  let below : Decimal := ⟨q, e⟩
  let above : Decimal := ⟨q + 1, e⟩
  match i.holds below, i.holds above with
  | true, true =>
    if 2 * r < den ∨ (2 * r = den ∧ q % 2 = 0) then some below else some above
  | true, false => some below
  | false, true => some above
  | false, false => none

/-- Searches with `count` digits and more, at most `fuel` more. Seventeen digits always suffice. -/
def search (x : Binary64) : (fuel count : Nat) → Decimal
  | 0, count => ⟨(onGrid x.interval.value x.interval.unit (x.decimalExponent - count)).1,
      x.decimalExponent - count⟩
  | fuel + 1, count => (nearest? x count).getD (search x fuel (count + 1))

/-- Moves trailing zeros of the digits into the exponent, at most `fuel` of them. -/
def Decimal.strip : Nat → Decimal → Decimal
  | 0, d => d
  | fuel + 1, d =>
    if d.digits % 10 = 0 ∧ d.digits ≠ 0 then strip fuel ⟨d.digits / 10, d.exponent + 1⟩ else d

/-- The decimal of fewest digits that rounds to the magnitude of a double, the nearest of those. -/
def shortest (x : Binary64) : Decimal :=
  if x.isZero then ⟨0, 0⟩ else (search x 17 1).strip 17

/-- How a format writes the digits of a double: which exponents of the leading digit are written
positionally (none: all of them), whether an integer keeps `.0`, and whether a positive exponent
shows its sign. -/
structure Layout where
  positional : Option (Int × Int)
  keepPoint : Bool
  plusSign : Bool

/-- Writes a decimal without an exponent. -/
def Layout.fixed (l : Layout) (digits : List Char) (exponent : Int) : List Char :=
  if 0 ≤ exponent then
    digits ++ List.replicate exponent.natAbs '0' ++ (if l.keepPoint then ['.', '0'] else [])
  else
    let behind := exponent.natAbs
    if behind < digits.length then
      digits.take (digits.length - behind) ++ '.' :: digits.drop (digits.length - behind)
    else
      '0' :: '.' :: (List.replicate (behind - digits.length) '0' ++ digits)

/-- Writes a decimal with one digit in front of the point and an exponent. -/
def Layout.scientific (l : Layout) (digits : List Char) (leading : Int) : List Char :=
  digits.take 1 ++ (if digits.length ≤ 1 then [] else '.' :: digits.drop 1) ++ 'e' ::
    (if leading < 0 then ['-'] else if l.plusSign then ['+'] else []) ++
    Nat.toDigits 10 leading.natAbs

/-- Writes a double with the fewest digits that read back. -/
def Layout.text (l : Layout) (x : Binary64) : String :=
  let d := x.shortest
  let digits := Nat.toDigits 10 d.digits
  let leading : Int := d.exponent + digits.length - 1
  let positional := match l.positional with
    | none => true
    | some (least, most) => least ≤ leading && leading ≤ most
  let body := if positional then l.fixed digits d.exponent else l.scientific digits leading
  String.ofList (if x.isNegative then '-' :: body else body)

end DeviceRegistry.Binary64
