import DeviceRegistry.Text.Base64
import DeviceRegistry.Text.Utf8

/-!
# `DeviceRegistry.Trust.Armor`: binary sections of a text file

A file may hold sections of binary data, each in base64 between a line that says what the section is
and a line that ends it. Whatever stands outside of sections does not count. `Armor.read?` gives the
sections of a kind that is known, and nothing when the file is damaged.
-/

set_option autoImplicit false

namespace DeviceRegistry.Trust

/-- A section of a file. -/
structure Armor where
  /-- What the section is. -/
  label : String
  content : List UInt8
  deriving DecidableEq, Repr

namespace Armor

/-! ### Base64 between line ends -/

/-- A symbol of a section. -/
inductive Symbol where
  | value (n : Nat)
  | filler
  deriving DecidableEq, Repr

/-- Whether a byte is passed over. -/
def isBlank (b : UInt8) : Bool := (0x09 ≤ b && b ≤ 0x0D) || b = 0x20

/-- Reads symbols up to the end, or to the end of the pair of groups in which fillers stand: `group`
holds the symbols of the pair so far. What follows such a pair does not count. -/
def readSymbols : (group : List Symbol) → List UInt8 → Option (List Symbol)
  | _, [] => some []
  | group, b :: r =>
    if isBlank b then readSymbols group r
    else do
      let s ← if b = Base64.pad then some .filler else (Base64.valueOf? b).map .value
      let group := s :: group
      if group.length < 8 then return s :: (← readSymbols group r)
      else if group.contains .filler then return [s]
      else return s :: (← readSymbols [] r)

/-- The bytes that values of six bits stand for. Bits that fill no byte do not count. -/
def bytesOf : List Nat → List UInt8
  | a :: b :: c :: d :: r => Base64.join a b c d ++ bytesOf r
  | [a, b, c] => (Base64.join a b c 0).take 2
  | [a, b] => (Base64.join a b 0 0).take 1
  | _ => []

/-- Reads the content of a section. The last group may be filled up or left short. -/
def decode? (body : List UInt8) : Option (List UInt8) := do
  let symbols ← readSymbols [] body
  let values := symbols.filterMap fun
    | .value n => some n
    | .filler => none
  let fillers := symbols.length - values.length
  let isWhole := fillers ≤ 2 ∧ symbols.length % 4 = 0
  let isShort := fillers = 0 ∧ symbols.length % 4 ≠ 1
  if symbols.take values.length = values.map .value ∧ (isWhole ∨ isShort) then bytesOf values
  else none

/-! ### Sections -/

/-- The lines of a file, each with its line end. -/
def lines (file : List UInt8) : List (List UInt8) :=
  file.foldr (fun b lines =>
    if b = 0x0A ∨ b = 0x0D then [b] :: lines
    else match lines with
      | line :: lines => (b :: line) :: lines
      | [] => [[b]]) []

/-- What a line starts with that begins a section. -/
def beginMark : List UInt8 := Text.bytes "-----BEGIN "

/-- What a line starts with that ends a section. -/
def endMark : List UInt8 := Text.bytes "-----END "

/-- The kinds of sections that are known. -/
def knownLabels : List String :=
  ["CERTIFICATE", "PUBLIC KEY", "RSA PRIVATE KEY", "PRIVATE KEY", "EC PRIVATE KEY", "X509 CRL",
    "CERTIFICATE REQUEST", "ECHCONFIG"]

/-- What a line that begins a section says behind its mark. Five hyphens stand at its end, blanks
aside. -/
def labelOf? (s : List UInt8) : Option (List UInt8) :=
  let closes (b : UInt8) : Bool := b = 0x2D || b = 0x0A || b = 0x0D || b = 0x20
  let close := (s.reverse.takeWhile closes).reverse
  if close.count 0x2D = 5 then
    some (s.take (s.length - close.length) ++ close.takeWhile (· ≠ 0x2D))
  else none

/-- A section whose end is still to come: what it says it is, and its lines so far. -/
structure Draft where
  label : List UInt8
  body : List UInt8 := []

/-- Whether a line ends a section. -/
def Draft.isEnd (d : Draft) (line : List UInt8) : Bool :=
  (endMark ++ d.label ++ Text.bytes "-----").isPrefixOf line

/-- The section of a draft, or none if its kind is not known. -/
def Draft.finish? (d : Draft) : Option (Option Armor) :=
  match knownLabels.find? (Text.bytes · = d.label) with
  | some label => (decode? d.body).map fun content => some ⟨label, content⟩
  | none => some none

/-- Reads the lines of a file. A section may begin inside of another one; it then goes on with the
lines so far. -/
def readLines : Option Draft → List (List UInt8) → Option (List Armor)
  | none, [] => some []
  | some _, [] => none
  | open?, line :: r =>
    if beginMark.isPrefixOf line then do
      let label ← labelOf? (line.drop beginMark.length)
      readLines (some ⟨label, (open?.map Draft.body).getD []⟩) r
    else
      match open? with
      | none => readLines none r
      | some d =>
        if d.isEnd line then do
          let section_ ← d.finish?
          return section_.toList ++ (← readLines none r)
        else readLines (some { d with body := d.body ++ line }) r

/-- Reads the sections of a file. -/
def read? (file : List UInt8) : Option (List Armor) := readLines none (lines file)

end Armor

end DeviceRegistry.Trust
