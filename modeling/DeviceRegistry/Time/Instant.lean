/-!
# `DeviceRegistry.Time.Instant`: points in time

An instant counts seconds since the start of 1970 in UTC and nanoseconds within the second. A leap
second is the end of the second before it: its nanoseconds run from one to two thousand millions.
Instants of the years -262143 to 262142 are representable; arithmetic that would leave them fails.
-/

set_option autoImplicit false

namespace DeviceRegistry

/-- A point in time. -/
structure Instant where
  seconds : Int
  nanos : Nat
  deriving DecidableEq, Repr, Inhabited

namespace Instant

/-- The start of 1970. -/
def epoch : Instant := ⟨0, 0⟩

/-- Earlier or at the same time. -/
def le (a b : Instant) : Bool :=
  a.seconds < b.seconds || (a.seconds == b.seconds && a.nanos ≤ b.nanos)

/-- Whether an instant lies inside a leap second. -/
def isLeap (t : Instant) : Bool := 1000000000 ≤ t.nanos

/-- Days in the civil calendar, from the start of 1970 to a date. Years start in March here, so that
the leap day is the last day of its year. -/
def daysOfDate (year : Int) (month day : Nat) : Int :=
  let y := if month ≤ 2 then year - 1 else year
  let era := y / 400
  let yearOfEra := y % 400
  let dayOfYear := (153 * ((month + 9) % 12) + 2) / 5 + day - 1
  era * 146097 + (yearOfEra * 365 + yearOfEra / 4 - yearOfEra / 100 + dayOfYear) - 719468

/-- The date that lies a number of days after the start of 1970: year, month, day. -/
def dateOfDays (days : Int) : Int × Nat × Nat :=
  let z := days + 719468
  let era := z / 146097
  let dayOfEra := (z % 146097).toNat
  let yearOfEra := (dayOfEra - dayOfEra / 1460 + dayOfEra / 36524 - dayOfEra / 146096) / 365
  let dayOfYear := dayOfEra - (365 * yearOfEra + yearOfEra / 4 - yearOfEra / 100)
  let m := (5 * dayOfYear + 2) / 153
  let day := dayOfYear - (153 * m + 2) / 5 + 1
  let month := if m < 10 then m + 3 else m - 9
  (yearOfEra + era * 400 + if month ≤ 2 then 1 else 0, month, day)

/-- Whether a year has a leap day. -/
def isLeapYear (year : Int) : Bool :=
  year % 4 == 0 && (year % 100 != 0 || year % 400 == 0)

/-- How many days a month has. -/
def daysInMonth (year : Int) (month : Nat) : Nat :=
  match month with
  | 2 => if isLeapYear year then 29 else 28
  | 4 | 6 | 9 | 11 => 30
  | _ => 31

/-- The first second that is representable. -/
def leastSecond : Int := daysOfDate (-262143) 1 1 * 86400

/-- The last second that is representable. -/
def greatestSecond : Int := (daysOfDate 262142 12 31 + 1) * 86400 - 1

/-- Whether a second is representable. -/
def inRange (seconds : Int) : Bool := leastSecond ≤ seconds && seconds ≤ greatestSecond

/-- The greatest number of seconds that a span of time holds. -/
def greatestSpan : Int := 9223372036854775

/-- The instant a positive number of seconds later, when the span and the instant are representable.
Leaving a leap second lands on the plain second after it. -/
def addSeconds? (t : Instant) (span : Int) : Option Instant :=
  let nanos := if t.isLeap then t.nanos - 1000000000 else t.nanos
  if greatestSpan < span then none
  else if inRange (t.seconds + span) then some ⟨t.seconds + span, nanos⟩
  else none

/-- The nanoseconds from `b` to `a`. A leap second of one that the other has passed on the same day
counts in full. -/
def nanosSince (a b : Instant) : Int :=
  let ofDay (t : Instant) : Int := t.seconds % 86400
  let leap : Int :=
    if ofDay b < ofDay a ∧ b.isLeap then 1
    else if ofDay a < ofDay b ∧ a.isLeap then -1
    else 0
  (a.seconds - b.seconds + leap) * 1000000000 + ((a.nanos : Int) - b.nanos)

/-- The whole milliseconds from `b` to `a`, rounded toward zero. -/
def millisSince (a b : Instant) : Int := Int.tdiv (nanosSince a b) 1000000

end Instant

end DeviceRegistry
