import DeviceRegistry.Time.Instant

/-!
# `DeviceRegistry.Time.Text`: instants as text

Documents carry instants in the format of RFC 3339 in UTC (`2024-01-01T00:00:00Z`), messages name
them in words of the same parts (`2024-01-01 00:00:00 UTC`). Both write the fewest of 0, 3, 6 or 9
fraction digits that are exact, and a sign for years outside 0 to 9999.
-/

set_option autoImplicit false

namespace DeviceRegistry.Instant

/-- A number in base ten, filled up with zeros to a width. -/
def padded (width n : Nat) : List Char :=
  let digits := Nat.toDigits 10 n
  List.replicate (width - digits.length) '0' ++ digits

/-- A year: four digits, with a sign outside 0 to 9999. -/
def yearText (year : Int) : List Char :=
  if year < 0 then '-' :: padded 4 year.natAbs
  else if 9999 < year then '+' :: padded 4 year.natAbs
  else padded 4 year.natAbs

/-- The fraction of a second, with its point. -/
def fractionText (nanos : Nat) : List Char :=
  if nanos = 0 then []
  else if nanos % 1000000 = 0 then '.' :: padded 3 (nanos / 1000000)
  else if nanos % 1000 = 0 then '.' :: padded 6 (nanos / 1000)
  else '.' :: padded 9 nanos

/-- Date and time with a separator between them. -/
def civilText (between : Char) (t : Instant) : List Char :=
  let (year, month, day) := dateOfDays (t.seconds / 86400)
  let ofDay := (t.seconds % 86400).toNat
  let second := ofDay % 60 + if t.isLeap then 1 else 0
  let nanos := if t.isLeap then t.nanos - 1000000000 else t.nanos
  yearText year ++ '-' :: padded 2 month ++ '-' :: padded 2 day ++ between ::
    padded 2 (ofDay / 3600) ++ ':' :: padded 2 (ofDay / 60 % 60) ++ ':' :: padded 2 second ++
    fractionText nanos

/-- The text of an instant in a document. -/
def render (t : Instant) : String := String.ofList (civilText 'T' t ++ ['Z'])

/-- The text of an instant in a message. -/
def display (t : Instant) : String := String.ofList (civilText ' ' t) ++ " UTC"

end DeviceRegistry.Instant
