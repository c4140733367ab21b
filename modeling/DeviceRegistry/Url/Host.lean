import DeviceRegistry.Domain.Ascii
import DeviceRegistry.Url.Basic

/-!
# `DeviceRegistry.Url.Host`: reading hosts

A host of a special scheme is an address in brackets, a number of up to four parts, or a domain. A
host of another scheme is any text.
-/

set_option autoImplicit false

namespace DeviceRegistry

/-- Why a text is no URL. -/
inductive UrlError where
  | emptyHost
  | invalidDomain
  | invalidHostCharacter
  | invalidIpv4
  | invalidIpv6
  | invalidPort
  | relativeWithoutBase
  deriving DecidableEq, Repr

/-- The text of an error. -/
def UrlError.message : UrlError → String
  | emptyHost => "empty host"
  | invalidDomain => "invalid international domain name"
  | invalidHostCharacter => "invalid domain character"
  | invalidIpv4 => "invalid IPv4 address"
  | invalidIpv6 => "invalid IPv6 address"
  | invalidPort => "invalid port number"
  | relativeWithoutBase => "relative URL without a base"

namespace Host

/-! ### Numbers -/

/-- The value of digits in a base, or none when one is no digit. -/
def valueIn? (base : Nat) (digits : List Char) : Option Nat :=
  digits.foldlM (fun n c => do
    let d ← Text.hexValue? c
    if d < base then return n * base + d else none) 0

/-- The number that a part of an address stands for: decimal, octal after `0`, or hexadecimal after
`0x`. -/
def partNumber? : List Char → Option Nat
  | [] => none
  | '0' :: 'x' :: r => valueIn? 16 r
  | '0' :: 'X' :: r => valueIn? 16 r
  | '0' :: c :: r => valueIn? 8 (c :: r)
  | s => valueIn? 10 s

/-- The parts of an address, without an empty last one. -/
def addressParts (s : List Char) : List (List Char) :=
  let parts := Text.splitAt '.' s
  if parts.length > 1 ∧ parts.getLast? = some [] then parts.dropLast else parts

/-- Whether a domain ends like an address. -/
def endsInNumber (s : List Char) : Bool :=
  match (addressParts s).getLast? with
  | some last => (!last.isEmpty && last.all Char.isDigit) || (partNumber? last).isSome
  | none => false

/-- Reads an address of up to four parts. The last part fills what the others leave. -/
def readIpv4 (s : List Char) : Except UrlError Host :=
  let parts := addressParts s
  match parts.mapM partNumber? with
  | none => .error .invalidIpv4
  | some numbers =>
    let front := numbers.dropLast
    let last := numbers.getLastD 0
    if 4 < numbers.length ∨ front.any (255 < ·) ∨ 1 <<< (8 * (4 - front.length)) ≤ last then
      .error .invalidIpv4
    else
      let high := front.foldl (fun n part => n * 256 + part) 0
      .ok (.ipv4 (high <<< (8 * (4 - front.length)) + last))

/-- Reads a group of up to four hexadecimal digits. -/
def readGroup? (s : List Char) : Option Nat :=
  if s.isEmpty ∨ 4 < s.length then none else valueIn? 16 s

/-- Reads the two groups that a dotted address fills at the end. Its parts are plain decimals. -/
def readDotted? (s : List Char) : Option (List Nat) := do
  let parts := Text.splitAt '.' s
  if parts.length ≠ 4 then none
  let numbers ← parts.mapM fun p =>
    if p.all Char.isDigit ∧ (p.length = 1 ∨ p.head? ≠ some '0') ∧ p.length ≤ 3 ∧ !p.isEmpty then
      (valueIn? 10 p).filter (· ≤ 255)
    else none
  match numbers with
  | [a, b, c, d] => return [a * 256 + b, c * 256 + d]
  | _ => none

/-- Reads groups with colons between them. -/
def readGroups? : List (List Char) → Option (List Nat)
  | [] => some []
  | [last] =>
    if last.contains '.' then readDotted? last else (readGroup? last).map fun n => [n]
  | g :: r => do
    let n ← readGroup? g
    return n :: (← readGroups? r)

/-- Splits at the first two colons that follow each other. -/
def splitGap : List Char → Option (List Char × List Char)
  | [] => none
  | ':' :: ':' :: r => some ([], r)
  | c :: r => (splitGap r).map fun (a, b) => (c :: a, b)

/-- The groups of a side of the gap, which may have none. -/
def sideGroups? (s : List Char) : Option (List Nat) :=
  if s.isEmpty then some [] else readGroups? (Text.splitAt ':' s)

/-- Reads an address of eight groups, of which some zeros may be left out once. -/
def readIpv6 (s : List Char) : Except UrlError Host :=
  let groups? : Option (List Nat) :=
    match splitGap s with
    | none => (readGroups? (Text.splitAt ':' s)).filter (·.length = 8)
    | some (front, back) => do
      if front.contains '.' then none
      let f ← sideGroups? front
      let b ← sideGroups? back
      if f.length + b.length ≤ 7 then
        return f ++ List.replicate (8 - f.length - b.length) 0 ++ b
      else none
  match groups? with
  | some groups => .ok (.ipv6 groups)
  | none => .error .invalidIpv6

/-! ### Hosts of either kind -/

/-- Reads what stands between brackets. -/
def readBracketed (s : List Char) : Except UrlError Host :=
  if s.getLast? = some ']' then readIpv6 s.dropLast else .error .invalidIpv6

/-- Reads a host of a special scheme. -/
def readSpecial (s : List Char) : Except UrlError Host :=
  match s with
  | '[' :: r => readBracketed r
  | s =>
    let bytes := Url.percentDecode (Text.bytes (String.ofList s))
    match Domain.ascii? (Text.lossy bytes).toList with
    | none => .error .invalidDomain
    | some [] => .error .emptyHost
    | some name =>
      if endsInNumber name then readIpv4 name else .ok (domain (String.ofList name))

/-- Reads a host of any other scheme. -/
def readPlain (s : List Char) : Except UrlError Host :=
  match s with
  | '[' :: r => readBracketed r
  | s =>
    if s.any ['\x00', '\t', '\n', '\r', ' ', '#', '/', ':', '<', '>', '?', '@', '[', '\\', ']', '^',
        '|'].contains then .error .invalidHostCharacter
    else .ok (.domain (Url.percentEncode Url.controlSet s))

end Host

end DeviceRegistry
