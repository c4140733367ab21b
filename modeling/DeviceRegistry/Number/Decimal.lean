import DeviceRegistry.Number.Shortest

/-!
# `DeviceRegistry.Number.Decimal`: numbers in decimal notation

Texts of digits, with a sign, a point and an exponent where they may have one. A text is read as a
whole: what is left over makes it no number. Settings may name any double, also those that are no
number, so what is read is a `Real64`: too large a magnitude is infinite.
-/

set_option autoImplicit false

namespace DeviceRegistry

/-! ### Doubles with their infinities -/

/-- A double of any kind. -/
inductive Real64 where
  | finite (x : Binary64)
  | infinite (negative : Bool)
  | notANumber
  deriving DecidableEq, Repr

namespace Real64

/-- The double nearest to a decimal fraction, or an infinity. -/
def ofDigits (negative : Bool) (digits : Nat) (e : Int) : Real64 :=
  -- far exponents decide the result whatever the digits are
  let width : Int := (Nat.toDigits 10 digits).length
  if digits = 0 ∨ e + width < -400 then .finite (Binary64.ofParts negative 0)
  else if 400 < e + width then .infinite negative
  else match Binary64.ofDecimal? negative digits e with
    | some x => .finite x
    | none => .infinite negative

/-- Messages write doubles without exponents, and integers without a point. -/
def plainLayout : Binary64.Layout := { positional := none, keepPoint := false, plusSign := false }

/-- The text of a double. -/
def text : Real64 → String
  | finite x => plainLayout.text x
  | infinite true => "-inf"
  | infinite false => "inf"
  | notANumber => "NaN"

end Real64

/-! ### Reading -/

namespace Decimal

/-- The number that digits stand for. -/
def value (digits : List Char) : Nat := digits.foldl (fun n c => n * 10 + (c.toNat - 0x30)) 0

/-- The number that a text of digits stands for. -/
def natural? (s : List Char) : Option Nat :=
  if s.isEmpty || !s.all Char.isDigit then none else some (value s)

/-- A text without its sign, and whether the sign is negative. -/
def splitSign : List Char → Bool × List Char
  | '-' :: r => (true, r)
  | '+' :: r => (false, r)
  | s => (false, s)

/-- The exponent that a text stands for: none, or a letter and a number that may have a sign. -/
def exponent? : List Char → Option Int
  | [] => some 0
  | c :: r =>
    if c = 'e' ∨ c = 'E' then
      let (negative, r) := splitSign r
      (natural? r).map fun n => if negative then -(n : Int) else n
    else none

/-- The digits behind a point, and the rest; without a point there are none. -/
def fraction : List Char → List Char × List Char
  | '.' :: r => (r.takeWhile Char.isDigit, r.dropWhile Char.isDigit)
  | s => ([], s)

/-- The double that a text stands for. Digits may be missing on one side of the point. -/
def real? (s : List Char) : Option Real64 :=
  let (negative, s) := splitSign s
  let whole := s.takeWhile Char.isDigit
  let (behind, r) := fraction (s.dropWhile Char.isDigit)
  if whole.isEmpty && behind.isEmpty then none
  else (exponent? r).map fun e =>
    Real64.ofDigits negative (value (whole ++ behind)) (e - behind.length)

end Decimal

end DeviceRegistry
