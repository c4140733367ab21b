/-!
# `DeviceRegistry.Text.Utf8`: bytes read as text

Bodies and files arrive as bytes. `Symbol.decode` reads them as UTF-8 without ever failing: a byte
sequence that encodes no character becomes a `stray` symbol, so that a reader can still report where
it stands and decide itself whether the damage matters. `lossy` turns every stray symbol into
U+FFFD, `strict?` refuses the text as a whole.
-/

set_option autoImplicit false

namespace DeviceRegistry.Text

/-- The UTF-8 bytes of a text. -/
def bytes (s : String) : List UInt8 := s.toUTF8.data.toList

/-- What a reader of UTF-8 meets: a character, or a longest run of bytes that starts like one and
does not become one. -/
inductive Symbol where
  | char (c : Char)
  | stray (width : Nat)
  deriving DecidableEq, Repr

namespace Symbol

/-- How many bytes a symbol was read from. -/
def width : Symbol → Nat
  | char c => c.utf8Size
  | stray n => n

/-- What the first byte of a sequence of several bytes asks of the others: the range of the second
byte, how many plain continuation bytes follow that one, and the bits it contributes itself. -/
structure Lead where
  low : Nat
  high : Nat
  more : Nat
  bits : Nat

/-- The lead bytes of UTF-8. The second byte is narrowed where a wider range would allow a
surrogate, a needlessly long form, or a number past U+10FFFF. -/
def Lead.of? (b : UInt8) : Option Lead :=
  let n := b.toNat
  if n < 0xC2 then none
  else if n ≤ 0xDF then some ⟨0x80, 0xBF, 0, n - 0xC0⟩
  else if n = 0xE0 then some ⟨0xA0, 0xBF, 1, 0⟩
  else if n = 0xED then some ⟨0x80, 0x9F, 1, 0xD⟩
  else if n ≤ 0xEF then some ⟨0x80, 0xBF, 1, n - 0xE0⟩
  else if n = 0xF0 then some ⟨0x90, 0xBF, 2, 0⟩
  else if n ≤ 0xF3 then some ⟨0x80, 0xBF, 2, n - 0xF0⟩
  else if n = 0xF4 then some ⟨0x80, 0x8F, 2, 4⟩
  else none

/-- Whether a byte continues a sequence. -/
def isTail (b : UInt8) : Bool := 0x80 ≤ b.toNat && b.toNat ≤ 0xBF

/-- Puts the six bits of a continuation byte behind the bits read so far. -/
def shiftIn (bits : Nat) (b : UInt8) : Nat := bits * 64 + (b.toNat - 0x80)

/-- Reads the plain continuation bytes of a sequence of which `seen` bytes are read. -/
def tails : (more bits seen : Nat) → List UInt8 → Symbol
  | 0, bits, _, _ => char (Char.ofNat bits)
  | _ + 1, _, seen, [] => stray seen
  | more + 1, bits, seen, b :: r =>
    if isTail b then tails more (shiftIn bits b) (seen + 1) r else stray seen

/-- The symbol that starts with byte `a` when the bytes `r` follow it. -/
def first (a : UInt8) (r : List UInt8) : Symbol :=
  if a.toNat < 0x80 then char (Char.ofNat a.toNat)
  else match Lead.of? a, r with
    | none, _ => stray 1
    | some _, [] => stray 1
    | some l, b :: r =>
      if l.low ≤ b.toNat && b.toNat ≤ l.high then tails l.more (shiftIn l.bits b) 2 r else stray 1

/-- Reads bytes as UTF-8 after passing over the first `skip` of them. -/
def decodeFrom : (skip : Nat) → List UInt8 → List Symbol
  | _, [] => []
  | skip + 1, _ :: r => decodeFrom skip r
  | 0, a :: r => first a r :: decodeFrom ((first a r).width - 1) r

/-- Reads bytes as UTF-8, keeping what is no character as stray symbols. -/
def decode (bs : List UInt8) : List Symbol := decodeFrom 0 bs

/-- The characters of a run of symbols, when it holds characters only. -/
def chars? : List Symbol → Option (List Char)
  | [] => some []
  | char c :: r => (chars? r).map (c :: ·)
  | stray _ :: _ => none

/-- The symbols of a text that is known to be well formed. -/
def ofString (s : String) : List Symbol := s.toList.map char

end Symbol

/-- Reads bytes as UTF-8 and refuses any damage. -/
def strict? (bs : List UInt8) : Option String :=
  (Symbol.chars? (Symbol.decode bs)).map String.ofList

/-- Reads bytes as UTF-8 with U+FFFD for each longest run of bytes that is no character. -/
def lossy (bs : List UInt8) : String :=
  String.ofList <| (Symbol.decode bs).map fun
    | .char c => c
    | .stray _ => '\uFFFD'

end DeviceRegistry.Text
