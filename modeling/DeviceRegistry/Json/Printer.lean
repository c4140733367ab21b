import DeviceRegistry.Json.Value
import DeviceRegistry.Number.Shortest
import DeviceRegistry.Text.Quoted

/-!
# `DeviceRegistry.Json.Printer`: writing documents

`Value.render` writes a document without blanks, `Value.renderPretty` with one item or member a
line, indented by two blanks a level. Both write the members in the order of the document. Only what
must be escaped in a string is escaped.
-/

set_option autoImplicit false

namespace DeviceRegistry.Json

/-- Doubles show a point or an exponent, so that they read back as doubles, and the sign of a
positive exponent. -/
def fractionLayout : Binary64.Layout :=
  { positional := some (-5, 15), keepPoint := true, plusSign := true }

/-- The text of a number. -/
def Number.text : Number → String
  | .whole n _ => if n < 0 then "-" ++ Nat.repr n.natAbs else Nat.repr n.natAbs
  | .binary x => fractionLayout.text x

/-- A character inside a string. -/
def escapeChar (c : Char) : List Char :=
  match c with
  | '"' => ['\\', '"']
  | '\\' => ['\\', '\\']
  | '\x08' => ['\\', 'b']
  | '\x0c' => ['\\', 'f']
  | '\n' => ['\\', 'n']
  | '\r' => ['\\', 'r']
  | '\t' => ['\\', 't']
  | c =>
    if c.toNat < 0x20 then
      ['\\', 'u', '0', '0', Text.hexDigit (c.toNat / 16), Text.hexDigit (c.toNat % 16)]
    else [c]

/-- The inside of a string. -/
def escape : List Char → List Char
  | [] => []
  | c :: r => escapeChar c ++ escape r

/-- A string with its quotes. -/
def renderString (s : String) : List Char := '"' :: (escape s.toList ++ ['"'])

mutual

/-- The characters of a document, without blanks. -/
def Value.chars : Value → List Char
  | .null => ['n', 'u', 'l', 'l']
  | .bool true => ['t', 'r', 'u', 'e']
  | .bool false => ['f', 'a', 'l', 's', 'e']
  | .number n => n.text.toList
  | .string s => renderString s
  | .array items => '[' :: (Value.itemChars items ++ [']'])
  | .object members => '\x7b' :: (Value.memberChars members ++ ['\x7d'])

/-- The items of an array, with commas between them. -/
def Value.itemChars : List Value → List Char
  | [] => []
  | [v] => v.chars
  | v :: r => v.chars ++ ',' :: Value.itemChars r

/-- The members of an object, with commas between them. -/
def Value.memberChars : List (String × Value) → List Char
  | [] => []
  | [(k, v)] => renderString k ++ ':' :: v.chars
  | (k, v) :: r => renderString k ++ ':' :: (v.chars ++ ',' :: Value.memberChars r)

end

/-- Writes a document without blanks. -/
def Value.render (v : Value) : String := String.ofList v.chars

/-- The start of a line at a level. -/
def indent (level : Nat) : List Char := '\n' :: List.replicate (2 * level) ' '

mutual

/-- The characters of a document that starts at a level, one item or member a line. -/
def Value.prettyChars (level : Nat) : Value → List Char
  | .array [] => ['[', ']']
  | .array (v :: r) =>
    '[' :: (Value.prettyItems (level + 1) (v :: r) ++ indent level ++ [']'])
  | .object [] => ['\x7b', '\x7d']
  | .object (m :: r) =>
    '\x7b' :: (Value.prettyMembers (level + 1) (m :: r) ++ indent level ++ ['\x7d'])
  | v => v.chars

/-- The items of an array, each on a line of its own. -/
def Value.prettyItems (level : Nat) : List Value → List Char
  | [] => []
  | [v] => indent level ++ v.prettyChars level
  | v :: r => indent level ++ v.prettyChars level ++ ',' :: Value.prettyItems level r

/-- The members of an object, each on a line of its own. -/
def Value.prettyMembers (level : Nat) : List (String × Value) → List Char
  | [] => []
  | [(k, v)] => indent level ++ renderString k ++ ':' :: ' ' :: v.prettyChars level
  | (k, v) :: r =>
    indent level ++ renderString k ++ ':' :: ' ' :: (v.prettyChars level ++
      ',' :: Value.prettyMembers level r)

end

/-- Writes a document with one item or member a line. -/
def Value.renderPretty (v : Value) : String := String.ofList (v.prettyChars 0)

end DeviceRegistry.Json
