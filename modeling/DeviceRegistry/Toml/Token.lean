import DeviceRegistry.Text.Character
import DeviceRegistry.Toml.Value

/-!
# `DeviceRegistry.Toml.Token`: keys and simple values

The parts of a TOML text that hold no others: keys, strings of four kinds, numbers, dates and times.
A reader gives what it has read and the rest of the text, or nothing when the text is refused.
-/

set_option autoImplicit false

namespace DeviceRegistry.Toml

/-- A reader of the start of a text. -/
abbrev Reader (α : Type) := List Char → Option (α × List Char)

/-! ### Blanks and line ends -/

/-- Whether a character is a blank within a line. -/
def isSpace (c : Char) : Bool := c = ' ' || c = '\t'

/-- Passes over blanks within a line. -/
def skipSpace (s : List Char) : List Char := s.dropWhile isSpace

/-- Whether a character may stand in a comment or a string of one line. -/
def isPrintable (c : Char) : Bool := c = '\t' || (0x20 ≤ c.toNat && c.toNat ≠ 0x7F)

/-- What follows a line end, if the text starts with one. -/
def afterLineEnd? : List Char → Option (List Char)
  | '\n' :: r => some r
  | '\r' :: '\n' :: r => some r
  | _ => none

/-- Passes over a comment, if there is one. -/
def skipComment : List Char → List Char
  | '#' :: r => r.dropWhile isPrintable
  | s => s

/-- Passes over the rest of a line that holds nothing more. -/
def endLine (s : List Char) : Option (List Char) :=
  match skipComment (skipSpace s) with
  | [] => some []
  | s => afterLineEnd? s

/-- Passes over blanks, comments and line ends. -/
def skipLines : (fuel : Nat) → List Char → List Char
  | 0, s => s
  | fuel + 1, s =>
    let s := skipComment (skipSpace s)
    match afterLineEnd? s with
    | some r => skipLines fuel r
    | none => s

/-! ### Strings -/

/-- Reads a character by its number in so many digits. -/
def readCodePoint (width : Nat) : Reader Char := fun s => do
  if s.length < width then none
  let n ← Text.hexNumber? (s.take width)
  if n < 0xD800 ∨ (0xE000 ≤ n ∧ n < 0x110000) then some (Char.ofNat n, s.drop width) else none

/-- Reads what follows a backslash. -/
def readEscape : Reader Char
  | 'b' :: r => some ('\x08', r)
  | 't' :: r => some ('\t', r)
  | 'n' :: r => some ('\n', r)
  | 'f' :: r => some ('\x0c', r)
  | 'r' :: r => some ('\r', r)
  | '"' :: r => some ('"', r)
  | '\\' :: r => some ('\\', r)
  | 'u' :: r => readCodePoint 4 r
  | 'U' :: r => readCodePoint 8 r
  | _ => none

/-- Reads a string of one line with escapes, behind its quote. -/
def readBasic : (fuel : Nat) → Reader (List Char)
  | 0, _ => none
  | fuel + 1, s =>
    match s with
    | '"' :: r => some ([], r)
    | '\\' :: r => do
      let (c, r) ← readEscape r
      let (cs, r) ← readBasic fuel r
      return (c :: cs, r)
    | c :: r =>
      if isPrintable c then do
        let (cs, r) ← readBasic fuel r
        return (c :: cs, r)
      else none
    | [] => none

/-- Reads a string of one line without escapes, behind its quote. -/
def readLiteral : Reader (List Char)
  | '\'' :: r => some ([], r)
  | c :: r =>
    if isPrintable c then (readLiteral r).map fun (cs, r) => (c :: cs, r) else none
  | [] => none

/-- Passes over a line end right behind the opening quotes. -/
def skipFirstLineEnd (s : List Char) : List Char := (afterLineEnd? s).getD s

/-- The quotes at the start of a text that are content when the string ends with them, and what
follows the end. Up to two quotes may stand in front of the closing three. -/
def closingQuotes? (quote : Char) (s : List Char) : Option (List Char × List Char) :=
  let n := (s.takeWhile (· = quote)).length
  if 3 ≤ n then
    let content := min n 5 - 3
    some (List.replicate content quote, s.drop (content + 3))
  else none

/-- Passes over blanks and line ends. -/
def skipEmpty : List Char → List Char
  | '\r' :: '\n' :: r => skipEmpty r
  | c :: r => if isSpace c || c = '\n' then skipEmpty r else c :: r
  | [] => []

/-- Passes over a line end that a backslash hides, with the blanks around it. -/
def hiddenLineEnd? (s : List Char) : Option (List Char) :=
  (afterLineEnd? (skipSpace s)).map skipEmpty

/-- Reads the inside of a string of several lines, with escapes or without. -/
def readLines (quote : Char) (escapes : Bool) : (fuel : Nat) → Reader (List Char)
  | 0, _ => none
  | fuel + 1, s =>
    match closingQuotes? quote s with
    | some (content, r) => some (content, r)
    | none =>
      match afterLineEnd? s, s with
      | some r, _ => (readLines quote escapes fuel r).map fun (cs, r) => ('\n' :: cs, r)
      | none, c :: r =>
        if c = '\\' ∧ escapes then
          match hiddenLineEnd? r with
          | some r => readLines quote escapes fuel r
          | none => do
            let (c, r) ← readEscape r
            let (cs, r) ← readLines quote escapes fuel r
            return (c :: cs, r)
        else if isPrintable c then
          (readLines quote escapes fuel r).map fun (cs, r) => (c :: cs, r)
        else none
      | none, [] => none

/-- Reads a string of any kind. -/
def readString : Reader String := fun s =>
  let read : Option (List Char × List Char) := match s with
    | '"' :: '"' :: '"' :: r => readLines '"' true (r.length + 1) (skipFirstLineEnd r)
    | '\'' :: '\'' :: '\'' :: r => readLines '\'' false (r.length + 1) (skipFirstLineEnd r)
    | '"' :: r => readBasic (r.length + 1) r
    | '\'' :: r => readLiteral r
    | _ => none
  read.map fun (cs, r) => (String.ofList cs, r)

/-! ### Keys -/

/-- Whether a character may stand in a key without quotes. -/
def isBare (c : Char) : Bool := c.isAlphanum || c = '_' || c = '-'

/-- Reads a part of a key. -/
def readKeyPart : Reader String := fun s =>
  match s with
  | '"' :: r => (readBasic (r.length + 1) r).map fun (cs, r) => (String.ofList cs, r)
  | '\'' :: r => (readLiteral r).map fun (cs, r) => (String.ofList cs, r)
  | s =>
    let part := s.takeWhile isBare
    if part.isEmpty then none else some (String.ofList part, s.drop part.length)

/-- Reads a key of at most `fuel` parts with dots between them: the parts but the last, and the
last. -/
def readKey : (fuel : Nat) → Reader (List String × String)
  | 0, _ => none
  | fuel + 1, s => do
    let (part, r) ← readKeyPart (skipSpace s)
    match skipSpace r with
    | '.' :: r =>
      let ((path, name), r) ← readKey fuel r
      return ((part :: path, name), r)
    | r => return (([], part), r)

/-! ### Numbers -/

/-- Reads digits, single underscores between them. -/
def readDigits (isDigit : Char → Bool) : Reader (List Char) := fun s =>
  let rec more : List Char → List Char × List Char
    | '_' :: c :: r =>
      if isDigit c then let (ds, r) := more r; (c :: ds, r) else ([], '_' :: c :: r)
    | c :: r => if isDigit c then let (ds, r) := more r; (c :: ds, r) else ([], c :: r)
    | [] => ([], [])
  match s with
  | c :: r => if isDigit c then let (ds, r) := more r; some (c :: ds, r) else none
  | [] => none

/-- The value of digits in a base. -/
def digitsValue (base : Nat) (ds : List Char) : Nat :=
  ds.foldl (fun n c => n * base + (Text.hexNumber? [c]).getD 0) 0

/-- An integer, when it fits 64 bits with a sign. -/
def integer? (n : Int) : Option Value :=
  if -0x8000000000000000 ≤ n ∧ n < 0x8000000000000000 then some (.integer n) else none

/-- Whether a character is a digit of a base up to 16. -/
def isDigitOf (base : Nat) (c : Char) : Bool :=
  match Text.hexNumber? [c] with
  | some d => d < base
  | none => false

/-- Reads the digits of an integer in a base that a letter names. -/
def readInBase (base : Nat) : Reader Value := fun s => do
  let (ds, r) ← readDigits (isDigitOf base) s
  return (← integer? (digitsValue base ds), r)

/-- Reads an exponent, if there is one. -/
def readExponent : Reader Int := fun s =>
  match s with
  | c :: r =>
    if c = 'e' ∨ c = 'E' then
      let (negative, r) := match r with
        | '-' :: r => (true, r)
        | '+' :: r => (false, r)
        | r => (false, r)
      do
        let (ds, r) ← readDigits Char.isDigit r
        let n : Int := digitsValue 10 ds
        return (if negative then -n else n, r)
    else some (0, s)
  | [] => some (0, s)

/-- Reads the digits behind a point, if there is one. -/
def readFraction : Reader (List Char) := fun s =>
  match s with
  | '.' :: r => readDigits Char.isDigit r
  | s => some ([], s)

/-- A double that a text stands for. Only the positive infinity is refused. -/
def real? (negative : Bool) (digits : List Char) (e : Int) : Option Value :=
  match Real64.ofDigits negative (digitsValue 10 digits) e with
  | .infinite false => none
  | x => some (.real x)

/-- Reads a decimal number behind its sign. -/
def readDecimal (negative : Bool) : Reader Value := fun s => do
  let (whole, r) ← match s with
    | '0' :: r => some (['0'], r)
    | s => readDigits Char.isDigit s
  match r with
  | '.' :: _ | 'e' :: _ | 'E' :: _ =>
    let (fraction, r) ← readFraction r
    let (e, r) ← readExponent r
    return (← real? negative (whole ++ fraction) (e - fraction.length), r)
  | r =>
    let n : Int := digitsValue 10 whole
    return (← integer? (if negative then -n else n), r)

/-- Reads a number behind its sign. -/
def readSigned (negative : Bool) : Reader Value
  | 'i' :: 'n' :: 'f' :: r => some (.real (.infinite negative), r)
  | 'n' :: 'a' :: 'n' :: r => some (.real .notANumber, r)
  | s => readDecimal negative s

/-- Reads a number. -/
def readNumber : Reader Value
  | '+' :: r => readSigned false r
  | '-' :: r => readSigned true r
  | '0' :: 'x' :: r => readInBase 16 r
  | '0' :: 'o' :: r => readInBase 8 r
  | '0' :: 'b' :: r => readInBase 2 r
  | s => readSigned false s

/-! ### Dates and times -/

/-- Reads a number of exactly so many digits between two bounds. -/
def readFixed (width low high : Nat) : Reader Nat := fun s =>
  let ds := s.take width
  if ds.length = width ∧ ds.all Char.isDigit then
    let n := digitsValue 10 ds
    if low ≤ n ∧ n ≤ high then some (n, s.drop width) else none
  else none

/-- Reads a character that must stand there. -/
def readMark (mark : Char) : Reader Unit
  | c :: r => if c = mark then some ((), r) else none
  | [] => none

/-- How many days a month has. -/
def daysInMonth (year month : Nat) : Nat :=
  match month with
  | 2 => if year % 4 = 0 ∧ (year % 100 ≠ 0 ∨ year % 400 = 0) then 29 else 28
  | 4 | 6 | 9 | 11 => 30
  | _ => 31

/-- Reads a date. -/
def readDate : Reader (List Char) := fun s => do
  let (year, r) ← readFixed 4 0 9999 s
  let ((), r) ← readMark '-' r
  let (month, r) ← readFixed 2 1 12 r
  let ((), r) ← readMark '-' r
  let (_, r) ← readFixed 2 1 (daysInMonth year month) r
  return (s.take 10, r)

/-- The text of a fraction of a second: nine digits count, and zeros at the end do not. -/
def fractionText (digits : List Char) : List Char :=
  match ((digits.take 9).reverse.dropWhile (· = '0')).reverse with
  | [] => []
  | ds => '.' :: ds

/-- Reads a time of day. -/
def readTime : Reader (List Char) := fun s => do
  let (_, r) ← readFixed 2 0 23 s
  let ((), r) ← readMark ':' r
  let (_, r) ← readFixed 2 0 59 r
  let ((), r) ← readMark ':' r
  let (_, r) ← readFixed 2 0 60 r
  match r with
  | '.' :: c :: r =>
    if c.isDigit then
      let digits := c :: r.takeWhile Char.isDigit
      return (s.take 8 ++ fractionText digits, r.dropWhile Char.isDigit)
    else return (s.take 8, '.' :: c :: r)
  | r => return (s.take 8, r)

/-- Reads the distance from UTC, if there is one. No distance has a plus sign. -/
def readOffset : Reader (List Char) := fun s =>
  match s with
  | c :: r =>
    if c = 'Z' ∨ c = 'z' then some (['Z'], r)
    else if c = '+' ∨ c = '-' then do
      let (hours, r') ← readFixed 2 0 23 r
      let ((), r') ← readMark ':' r'
      let (minutes, r') ← readFixed 2 0 59 r'
      let sign := if hours = 0 ∧ minutes = 0 then '+' else c
      return (sign :: r.take 5, r')
    else some ([], s)
  | [] => some ([], s)

/-- Reads a date with the time behind it, if there is one. -/
def readDateTime : Reader (List Char) := fun s => do
  let (date, r) ← readDate s
  match r with
  | c :: d :: r' =>
    if (c = 'T' ∨ c = 't' ∨ c = ' ') ∧ d.isDigit then
      let (time, r) ← readTime (d :: r')
      let (offset, r) ← readOffset r
      return (date ++ 'T' :: time ++ offset, r)
    else return (date, r)
  | r => return (date, r)

/-- Whether a text starts with so many digits and then a character. -/
def startsWithDigits (width : Nat) (mark : Char) (s : List Char) : Bool :=
  (s.take width).all Char.isDigit && (s.drop width).head? = some mark

/-- Reads a value without items or members. -/
def readScalar : Reader Value := fun s =>
  match s with
  | '"' :: _ => (readString s).map fun (t, r) => (.string t, r)
  | '\'' :: _ => (readString s).map fun (t, r) => (.string t, r)
  | 't' :: 'r' :: 'u' :: 'e' :: r => some (.boolean true, r)
  | 'f' :: 'a' :: 'l' :: 's' :: 'e' :: r => some (.boolean false, r)
  | s =>
    let moment : Option (Reader (List Char)) :=
      if startsWithDigits 4 '-' s then some readDateTime
      else if startsWithDigits 2 ':' s then some readTime
      else none
    match moment with
    | some read => (read s).map fun (t, r) => (.datetime (String.ofList t), r)
    | none => readNumber s

end DeviceRegistry.Toml
