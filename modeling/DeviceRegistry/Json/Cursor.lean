import DeviceRegistry.Json.Error
import DeviceRegistry.Text.Utf8

/-!
# `DeviceRegistry.Json.Cursor`: reading a text from left to right

A `Cursor` is what is left of a text together with the place it stands at. Readers take a cursor and
give a result with the cursor behind it. A reader that notices a fault reports it either where it
stands (`fail`) or at the byte it looks at (`failAhead`); a mismatch inside an array or object is
reported without a place, with the cursor where reading stopped (`Failure.unplaced`), and gets its
place from the array or object around it.
-/

set_option autoImplicit false

namespace DeviceRegistry.Json

open DeviceRegistry.Text (Symbol)

/-- What is left of a text, and where it stands. -/
structure Cursor where
  rest : List Symbol
  line : Nat
  column : Nat
  deriving DecidableEq, Repr

namespace Cursor

/-- The start of a text. -/
def start (symbols : List Symbol) : Cursor := ⟨symbols, 1, 0⟩

/-- The place of a cursor. -/
def position (c : Cursor) : Position := ⟨c.line, c.column⟩

/-- The next character. -/
def peek? (c : Cursor) : Option Char :=
  match c.rest with
  | .char x :: _ => some x
  | _ => none

/-- Whether nothing is left. -/
def atEnd (c : Cursor) : Bool := c.rest.isEmpty

/-- The cursor behind the next symbol. -/
def next (c : Cursor) : Cursor :=
  match c.rest with
  | [] => c
  | .char '\n' :: r => ⟨r, c.line + 1, 0⟩
  | s :: r => ⟨r, c.line, c.column + s.width⟩

/-- The cursor behind the next `n` symbols. -/
def drop : Nat → Cursor → Cursor
  | 0, c => c
  | n + 1, c => drop n c.next

/-- The place behind the next byte, which need not end a character. -/
def ahead (c : Cursor) : Position :=
  match c.rest with
  | [] => c.position
  | .char '\n' :: _ => ⟨c.line + 1, 0⟩
  | _ => ⟨c.line, c.column + 1⟩

/-- The place behind the next `n` bytes. -/
def aheadBy (n : Nat) : List Symbol → Position → Position
  | [], p => p
  | .char '\n' :: r, p => if n = 0 then p else aheadBy (n - 1) r ⟨p.line + 1, 0⟩
  | s :: r, p =>
    if n < s.width then ⟨p.line, p.column + n⟩
    else aheadBy (n - s.width) r ⟨p.line, p.column + s.width⟩

/-- How many bytes are left. -/
def bytesLeft (c : Cursor) : Nat := c.rest.foldr (fun s n => s.width + n) 0

end Cursor

/-- Why reading stopped: at a place, or with a mismatch that gets its place from what is around
it. -/
inductive Failure where
  | placed (e : Error)
  | unplaced (m : Mismatch) (stopped : Cursor)

/-- A reader of part of a text. -/
abbrev Reader (α : Type) := Cursor → Except Failure (α × Cursor)

/-- Reports a fault where the cursor stands. -/
def fail {α : Type} (c : Cursor) (f : Malformed) : Except Failure α :=
  .error (.placed ⟨.malformed f, some c.position⟩)

/-- Reports a fault at the byte the cursor looks at. -/
def failAhead {α : Type} (c : Cursor) (f : Malformed) : Except Failure α :=
  .error (.placed ⟨.malformed f, some c.ahead⟩)

/-- Reports a mismatch where the cursor stands. -/
def misfit {α : Type} (c : Cursor) (m : Mismatch) : Except Failure α :=
  .error (.placed ⟨.mismatch m, some c.position⟩)

/-- Passes over blanks: spaces, tabs and line ends. -/
def skipBlanksIn : List Symbol → (line column : Nat) → Cursor
  | .char '\n' :: r, line, _ => skipBlanksIn r (line + 1) 0
  | .char ' ' :: r, line, column => skipBlanksIn r line (column + 1)
  | .char '\t' :: r, line, column => skipBlanksIn r line (column + 1)
  | .char '\r' :: r, line, column => skipBlanksIn r line (column + 1)
  | rest, line, column => ⟨rest, line, column⟩

/-- Passes over blanks. -/
def Cursor.skipBlanks (c : Cursor) : Cursor := skipBlanksIn c.rest c.line c.column

/-- Reads the characters of a word. -/
def readWord : List Char → Reader Unit
  | [], c => .ok ((), c)
  | x :: word, c =>
    if c.atEnd then fail c .endInValue
    else if c.peek? = some x then readWord word c.next
    else failAhead c .expectedIdent

end DeviceRegistry.Json
