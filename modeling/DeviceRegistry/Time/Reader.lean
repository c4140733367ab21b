import DeviceRegistry.Text.Character
import DeviceRegistry.Time.Instant

/-!
# `DeviceRegistry.Time.Reader`: reading instants

`Instant.parse` reads the format of RFC 3339 generously: blanks may stand around the parts, the
separator may be a blank, years may be signed and longer or shorter than four digits, the offset may
be `UTC`, may lack its colon, and may use the typographic minus. The text is read from left to
right, a part that is out of range is reported where it stands, and the whole only after its end.
-/

set_option autoImplicit false

namespace DeviceRegistry.Instant

open DeviceRegistry.Text (isBlank trimFront)

/-- Why a text is no instant. -/
inductive ParseError where
  | outOfRange
  | impossible
  | invalid
  | tooShort
  | trailing
  deriving DecidableEq, Repr

/-- The text of an error. -/
def ParseError.message : ParseError → String
  | outOfRange => "input is out of range"
  | impossible => "no possible date and time matching input"
  | invalid => "input contains invalid characters"
  | tooShort => "premature end of input"
  | trailing => "trailing input"

/-- The value of a run of digits. -/
def digitsValue (ds : List Char) : Nat := ds.foldl (fun n c => n * 10 + (c.toNat - 0x30)) 0

/-- Reads a run of at least one digit and at most `width`. -/
def readDigits (width : Nat) (s : List Char) : Except ParseError (Nat × List Char) :=
  let digits := (s.take width).takeWhile Char.isDigit
  if s.isEmpty then .error .tooShort
  else if digits.isEmpty then .error .invalid
  else if digitsValue digits ≤ 9223372036854775807 then
    .ok (digitsValue digits, s.drop digits.length)
  else .error .outOfRange

/-- Reads a number of at most two digits between two bounds. -/
def readField (low high : Nat) (s : List Char) : Except ParseError (Nat × List Char) := do
  let (n, s) ← readDigits 2 (trimFront s)
  if low ≤ n ∧ n ≤ high then return (n, s) else throw .outOfRange

/-- Reads a year. Only a signed year may have more than four digits. -/
def readYear (s : List Char) : Except ParseError (Int × List Char) := do
  let s := trimFront s
  let (year, s) ← match s with
    | '-' :: r => (readDigits r.length r).map fun (n, s) => (-(n : Int), s)
    | '+' :: r => (readDigits r.length r).map fun (n, s) => ((n : Int), s)
    | s => (readDigits 4 s).map fun (n, s) => ((n : Int), s)
  if -2147483648 ≤ year ∧ year ≤ 2147483647 then return (year, s) else throw .outOfRange

/-- Reads a character that must stand there, after blanks. -/
def readMark (mark : Char) (s : List Char) : Except ParseError (Unit × List Char) :=
  match trimFront s with
  | [] => .error .tooShort
  | c :: r => if c = mark then .ok ((), r) else .error .invalid

/-- Reads the fraction of a second, if there is one. Digits past the ninth are passed over. -/
def readFraction : List Char → Except ParseError (Nat × List Char)
  | '.' :: s => do
    let (n, rest) ← readDigits 9 s
    return (n * Nat.pow 10 (9 - (s.length - rest.length)), rest.dropWhile Char.isDigit)
  | s => .ok (0, s)

/-- The next two characters, which fill at least two bytes. -/
def readPair : List Char → Except ParseError (Char × Char)
  | [] => .error .tooShort
  | [c] => if c.toNat < 0x80 then .error .tooShort else .error .invalid
  | a :: b :: _ => .ok (a, b)

/-- Reads the sign of an offset, and says whether it is negative. -/
def readSign : List Char → Except ParseError (Bool × List Char)
  | '+' :: s => .ok (false, s)
  | '-' :: s => .ok (true, s)
  | '\u2212' :: s => .ok (true, s)
  | _ :: _ => .error .invalid
  | [] => .error .tooShort

/-- Reads a number of exactly two digits. -/
def readTwoDigits (s : List Char) : Except ParseError (Nat × List Char) := do
  let (a, b) ← readPair s
  if a.isDigit && b.isDigit then return (digitsValue [a, b], s.drop 2) else throw .invalid

/-- Reads the offset from UTC in seconds. -/
def readOffset : List Char → Except ParseError (Int × List Char)
  | 'Z' :: s => .ok (0, s)
  | 'z' :: s => .ok (0, s)
  | s => do
    let (negative, s) ← readSign s
    let (hours, s) ← readTwoDigits s
    let (minutes, s) ← readTwoDigits (s.dropWhile fun c => c == ':' || isBlank c)
    let seconds : Int := hours * 3600 + minutes * 60
    if minutes < 60 then return (if negative then -seconds else seconds, s) else throw .outOfRange

/-- Reads the offset or the name `UTC` in any case. -/
def readZone (s : List Char) : Except ParseError (Int × List Char) :=
  let s := trimFront s
  if (s.take 3).map Char.toUpper = ['U', 'T', 'C'] then .ok (0, s.drop 3) else readOffset s

/-- The parts of date and time as they are written. -/
structure Civil where
  year : Int
  month : Nat
  day : Nat
  hour : Nat
  minute : Nat
  second : Nat
  nanos : Nat
  offset : Int

/-- Reads what stands between date and time. -/
def readSeparator : List Char → Except ParseError (Unit × List Char)
  | 'T' :: s => .ok ((), s)
  | 't' :: s => .ok ((), s)
  | ' ' :: s => .ok ((), s)
  | _ :: _ => .error .invalid
  | [] => .error .tooShort

/-- Reads the parts of date and time from the start of a text. -/
def readCivil (s : List Char) : Except ParseError (Civil × List Char) := do
  let (year, s) ← readYear s
  let ((), s) ← readMark '-' s
  let (month, s) ← readField 1 12 s
  let ((), s) ← readMark '-' s
  let (day, s) ← readField 1 31 s
  let ((), s) ← readSeparator s
  let (hour, s) ← readField 0 23 s
  let ((), s) ← readMark ':' s
  let (minute, s) ← readField 0 59 s
  let ((), s) ← readMark ':' s
  let (second, s) ← readField 0 60 s
  let (nanos, s) ← readFraction s
  let (offset, s) ← readZone s
  return (⟨year, month, day, hour, minute, second, nanos, offset⟩, s)

/-- The instant that the parts denote. Second 60 is a leap second. -/
def Civil.instant (c : Civil) : Except ParseError Instant :=
  let here : Int := daysOfDate c.year c.month c.day * 86400 +
    (c.hour * 3600 + c.minute * 60 + min c.second 59 : Nat)
  let nanos := c.nanos + if c.second = 60 then 1000000000 else 0
  if daysInMonth c.year c.month < c.day ∨ !inRange here then .error .outOfRange
  else if 86400 ≤ c.offset.natAbs then .error .outOfRange
  else if !inRange (here - c.offset) then .error .impossible
  else .ok ⟨here - c.offset, nanos⟩

/-- Reads a text as an instant. -/
def parse (text : String) : Except ParseError Instant := do
  let (civil, rest) ← readCivil text.toList
  if rest.all isBlank then civil.instant else throw .trailing

end DeviceRegistry.Instant
