import DeviceRegistry.Json.Printer
import DeviceRegistry.Text.Quoted

/-!
# `DeviceRegistry.Json.Error`: why a document is refused

A text can fail to be JSON (`Malformed`), and a document can fail to be what its reader asks for
(`Mismatch`). An `Error` is one of the two with the place in the text where it was noticed, when
there is one: a parsed value has no places.
-/

set_option autoImplicit false

namespace DeviceRegistry.Json

/-- Why a text is not JSON. -/
inductive Malformed where
  | endInList
  | endInObject
  | endInString
  | endInValue
  | expectedColon
  | expectedListCommaOrEnd
  | expectedObjectCommaOrEnd
  | expectedIdent
  | expectedValue
  | invalidEscape
  | invalidNumber
  | numberOutOfRange
  | invalidCodePoint
  | controlCharacter
  | keyNotString
  | loneSurrogate
  | trailingComma
  | trailingCharacters
  | unexpectedEndOfHex
  | tooDeep
  deriving DecidableEq, Repr

/-- The text of a fault. -/
def Malformed.message : Malformed → String
  | endInList => "EOF while parsing a list"
  | endInObject => "EOF while parsing an object"
  | endInString => "EOF while parsing a string"
  | endInValue => "EOF while parsing a value"
  | expectedColon => "expected \x60:\x60"
  | expectedListCommaOrEnd => "expected \x60,\x60 or \x60]\x60"
  | expectedObjectCommaOrEnd => "expected \x60,\x60 or \x60\x7d\x60"
  | expectedIdent => "expected ident"
  | expectedValue => "expected value"
  | invalidEscape => "invalid escape"
  | invalidNumber => "invalid number"
  | numberOutOfRange => "number out of range"
  | invalidCodePoint => "invalid unicode code point"
  | controlCharacter => "control character (\\u0000-\\u001F) found while parsing a string"
  | keyNotString => "key must be a string"
  | loneSurrogate => "lone leading surrogate in hex escape"
  | trailingComma => "trailing comma"
  | trailingCharacters => "trailing characters"
  | unexpectedEndOfHex => "unexpected end of hex escape"
  | tooDeep => "recursion limit exceeded"

/-- Whether the text merely ends too early. -/
def Malformed.isEnd : Malformed → Bool
  | endInList | endInObject | endInString | endInValue => true
  | _ => false

/-- What a reader found where it asked for something else. -/
inductive Found where
  | null
  | bool (b : Bool)
  | number (n : Number)
  | string (s : String)
  | sequence
  | map
  deriving DecidableEq, Repr

/-- What a document looks like to a reader that asks for something else. -/
def Value.found : Value → Found
  | .null => .null
  | .bool b => .bool b
  | .number n => .number n
  | .string s => .string s
  | .array _ => .sequence
  | .object _ => .map

/-- How a message names what was found. -/
def Found.text : Found → String
  | null => "null"
  | bool b => s!"boolean \x60{b}\x60"
  | number (.whole n h) => s!"integer \x60{(Number.whole n h).text}\x60"
  | number (.binary x) => s!"floating point \x60{(Number.binary x).text}\x60"
  | string s => s!"string {Text.quoted s}"
  | sequence => "sequence"
  | map => "map"

/-- Why a document is not what its reader asks for. -/
inductive Mismatch where
  | wrongType (found : Found) (expected : String)
  | wrongValue (found : Found) (expected : String)
  | wrongLength (length : Nat) (expected : String)
  | unknownVariant (name : String) (expected : List String)
  | duplicateField (name : String)
  | missingField (name : String)
  /-- A rule of the domain that goes beyond the shape of the document. -/
  | rule (message : String)
  deriving DecidableEq, Repr

/-- Alternatives as a message lists them. -/
def alternatives (names : List String) : String :=
  ", ".intercalate (names.map fun n => s!"\x60{n}\x60")

/-- The text of a mismatch. -/
def Mismatch.message : Mismatch → String
  | wrongType found expected => s!"invalid type: {found.text}, expected {expected}"
  | wrongValue found expected => s!"invalid value: {found.text}, expected {expected}"
  | wrongLength length expected => s!"invalid length {length}, expected {expected}"
  | unknownVariant name expected =>
    s!"unknown variant \x60{name}\x60, expected one of {alternatives expected}"
  | duplicateField name => s!"duplicate field \x60{name}\x60"
  | missingField name => s!"missing field \x60{name}\x60"
  | rule message => message

/-- A line, counted from one, and how many of its bytes have been read. -/
structure Position where
  line : Nat
  column : Nat
  deriving DecidableEq, Repr

/-- What is wrong with a document. -/
inductive Cause where
  | malformed (fault : Malformed)
  | mismatch (m : Mismatch)
  deriving DecidableEq, Repr

/-- Why a document is refused, and where. -/
structure Error where
  cause : Cause
  place : Option Position
  deriving DecidableEq, Repr

/-- The text of a cause. -/
def Cause.message : Cause → String
  | malformed f => f.message
  | mismatch m => m.message

/-- The text of an error, with its place. -/
def Error.message (e : Error) : String :=
  match e.place with
  | some p => s!"{e.cause.message} at line {p.line} column {p.column}"
  | none => e.cause.message

end DeviceRegistry.Json
