import DeviceRegistry.Json.Cursor

/-!
# `DeviceRegistry.Json.Token`: strings and numbers

The parts of a text without structure of their own. A string ends at its closing quote; only then is
it refused for bytes that are no character. A number is read digit by digit into 64 bits; digits
that do not fit only count by their place, and what is no integer of 64 bits becomes the double that
one multiplication or division by a power of ten gives.
-/

set_option autoImplicit false

namespace DeviceRegistry.Json

open DeviceRegistry.Text (Symbol hexValue?)

/-! ### Strings -/

/-- The value of four hexadecimal digits at the start of a text. -/
def hexFour? : List Symbol → Option Nat
  | .char a :: .char b :: .char c :: .char d :: _ => do
    return (← hexValue? a) * 4096 + (← hexValue? b) * 256 + (← hexValue? c) * 16 + (← hexValue? d)
  | _ => none

/-- Reads four hexadecimal digits. -/
def readHexFour : Reader Nat := fun c =>
  match hexFour? c.rest with
  | some n => .ok (n, c.drop 4)
  | none =>
    let (bytes, fault) :=
      if c.bytesLeft < 4 then (c.bytesLeft, Malformed.endInString) else (4, .invalidEscape)
    .error (.placed ⟨.malformed fault, some (Cursor.aheadBy bytes c.rest c.position)⟩)

/-- Reads a character that must follow the first half of a pair. -/
def readPairMark (mark : Char) : Reader Unit := fun c =>
  if c.atEnd then fail c .endInString
  else if c.peek? = some mark then .ok ((), c.next)
  else failAhead c .unexpectedEndOfHex

/-- Reads the number of a character after `\u`, a pair of halves for one past U+FFFF. -/
def readCodePoint : Reader Char := fun c => do
  let (n, c) ← readHexFour c
  if 0xDC00 ≤ n ∧ n ≤ 0xDFFF then fail c .loneSurrogate
  else if n < 0xD800 ∨ 0xDBFF < n then .ok (Char.ofNat n, c)
  else
    let ((), c) ← readPairMark '\\' c
    let ((), c) ← readPairMark 'u' c
    let (m, c) ← readHexFour c
    if m < 0xDC00 ∨ 0xDFFF < m then fail c .loneSurrogate
    else .ok (Char.ofNat ((n - 0xD800) * 0x400 + (m - 0xDC00) + 0x10000), c)

/-- The character that a letter after `\` stands for. -/
def escaped? : Char → Option Char
  | '"' => some '"'
  | '\\' => some '\\'
  | '/' => some '/'
  | 'b' => some '\x08'
  | 'f' => some '\x0c'
  | 'n' => some '\n'
  | 'r' => some '\r'
  | 't' => some '\t'
  | _ => none

/-- Reads what follows `\` in a string. -/
def readEscape : Reader Char := fun c =>
  match c.peek? with
  | some 'u' => readCodePoint c.next
  | some x =>
    match escaped? x with
    | some y => .ok (y, c.next)
    | none => failAhead c .invalidEscape
  | none => if c.atEnd then fail c .endInString else failAhead c .invalidEscape

/-- The text of a string that has been read to its end. If it holds bytes that are no character, the
fault counts from the end: as many bytes back as the text has from those on. -/
def finishString (symbols : List Symbol) : Reader String := fun c =>
  match Symbol.chars? symbols with
  | some cs => .ok (String.ofList cs, c)
  | none =>
    let isChar (s : Symbol) : Bool := s matches .char _
    let back := (symbols.dropWhile isChar).foldl (fun n s => n + s.width) 0
    .error (.placed ⟨.malformed .invalidCodePoint, some ⟨c.line, c.column - back⟩⟩)

/-- Reads a string behind its opening quote: `seen` holds what it stands for so far, last symbol
first. -/
def readStringBody : (fuel : Nat) → (seen : List Symbol) → Reader String
  | 0, _, c => fail c .endInString
  | fuel + 1, seen, c =>
    match c.rest with
    | [] => fail c .endInString
    | .stray n :: _ => readStringBody fuel (.stray n :: seen) c.next
    | .char x :: _ =>
      if x = '"' then finishString seen.reverse c.next
      else if x = '\\' then
        match readEscape c.next with
        | .ok (y, c) => readStringBody fuel (.char y :: seen) c
        | .error e => .error e
      else if x.toNat < 0x20 then failAhead c .controlCharacter
      else readStringBody fuel (.char x :: seen) c.next

/-- Reads a string behind its opening quote. -/
def readString : Reader String := fun c => readStringBody (c.rest.length + 1) [] c

/-! ### Numbers -/

/-- The value of a decimal digit. -/
def digit? : Symbol → Option Nat
  | .char c => if '0' ≤ c ∧ c ≤ '9' then some (c.toNat - 0x30) else none
  | .stray _ => none

/-- The digits at the start of a text. -/
def digitsOf : List Symbol → List Nat
  | [] => []
  | s :: r =>
    match digit? s with
    | some d => d :: digitsOf r
    | none => []

/-- Whether a text starts with a digit. -/
def startsWithDigit (rest : List Symbol) : Bool := !(digitsOf rest).isEmpty

/-- Appends digits to a number as long as it stays at most `limit`, and counts those appended. -/
def appendDigits (limit : Nat) : (n : Nat) → List Nat → Nat × Nat
  | n, [] => (n, 0)
  | n, d :: ds =>
    if n * 10 + d ≤ limit then
      let (m, k) := appendDigits limit (n * 10 + d) ds
      (m, k + 1)
    else (n, 0)

/-- The greatest integer of 64 bits. -/
def greatestWord : Nat := 0xFFFFFFFFFFFFFFFF

/-- The greatest exponent that is counted. -/
def greatestExponent : Nat := 0x7FFFFFFF

/-- A power of ten as a double. -/
def powerOfTen (e : Nat) : Binary64 := (Binary64.ofDecimal? false 1 e).getD ⟨0⟩

/-- Divides by a power of ten, in steps that the table of powers holds. -/
def divideByPower : (fuel : Nat) → Binary64 → (e : Nat) → Binary64
  | 0, x, _ => x
  | fuel + 1, x, e =>
    if e ≤ 308 then (x.div? (powerOfTen e)).getD ⟨0⟩
    else if x.isZero then x
    else divideByPower fuel ((x.div? (powerOfTen 308)).getD ⟨0⟩) (e - 308)

/-- The double for a significand and a power of ten: rounded once each for the significand and for
every multiplication or division. None when it is too large. -/
def fractionOf? (significand : Nat) (e : Int) : Option Binary64 := do
  let x ← Binary64.ofNat? significand
  if e < 0 then return divideByPower 4 x e.natAbs
  else if e ≤ 308 then x.mul? (powerOfTen e.natAbs)
  else if x.isZero then return x
  else none

/-- The number for a significand and a power of ten, read up to a cursor. -/
def fraction (negative : Bool) (significand : Nat) (e : Int) (c : Cursor) :
    Except Failure (Number × Cursor) :=
  match fractionOf? significand e with
  | some x => .ok (.binary (if negative then x.neg else x), c)
  | none => fail c .numberOutOfRange

/-- The number for an integer. Zero keeps a minus sign only as a double. -/
def integer (negative : Bool) (n : Nat) (c : Cursor) : Except Failure (Number × Cursor) :=
  if negative then
    if n = 0 ∨ 0x8000000000000000 < n then fraction true n 0 c
    else match Number.ofInt? (-(n : Int)) with
      | some m => .ok (m, c)
      | none => fraction true n 0 c
  else match Number.ofInt? n with
    | some m => .ok (m, c)
    | none => fraction false n 0 c

/-- Reads an exponent behind its `e`. -/
def readExponent (negative : Bool) (significand : Nat) (e : Int) : Reader Number := fun c =>
  let (down, c) :=
    match c.peek? with
    | some '+' => (false, c.next)
    | some '-' => (true, c.next)
    | _ => (false, c)
  let digits := digitsOf c.rest
  if digits.isEmpty then
    if c.atEnd then fail c .endInValue else failAhead c .invalidNumber
  else
    let (n, used) := appendDigits greatestExponent 0 digits
    if used = digits.length then
      fraction negative significand (if down then e - n else e + n) (c.drop digits.length)
    else if significand ≠ 0 ∧ !down then fail (c.drop (used + 1)) .numberOutOfRange
    else fraction negative 0 0 (c.drop digits.length)

/-- Reads the digits behind a decimal point. -/
def readFraction (negative : Bool) (significand : Nat) (e : Int) : Reader Number := fun c =>
  let digits := digitsOf c.rest
  if digits.isEmpty then failAhead c (if c.atEnd then .endInValue else .invalidNumber)
  else
    let (n, used) := appendDigits greatestWord significand digits
    let c := c.drop digits.length
    match c.peek? with
    | some 'e' => readExponent negative n (e - used) c.next
    | some 'E' => readExponent negative n (e - used) c.next
    | _ => fraction negative n (e - used) c

/-- Reads a number behind its sign. -/
def readNumber (negative : Bool) : Reader Number := fun c =>
  let digits := digitsOf c.rest
  match digits with
  | [] => if c.atEnd then fail c .endInValue else failAhead c .invalidNumber
  | 0 :: _ :: _ => failAhead c.next .invalidNumber
  | _ =>
    let (n, used) := appendDigits greatestWord 0 digits
    let extra := digits.length - used
    let c := c.drop digits.length
    match c.peek? with
    | some '.' => readFraction negative n extra c.next
    | some 'e' => readExponent negative n extra c.next
    | some 'E' => readExponent negative n extra c.next
    | _ => if extra = 0 then integer negative n c else fraction negative n extra c

end DeviceRegistry.Json
