import DeviceRegistry.Text.Quoted
import DeviceRegistry.Toml.Token

/-!
# `DeviceRegistry.Toml.Printer`: writing TOML

A table is written as sections: first its own values, a line each, and then a section for each of
its tables under a header with the path. A table that has nothing but tables needs no header. A
string is written in the plainest form that can hold it.
-/

set_option autoImplicit false

namespace DeviceRegistry.Toml

/-! ### Strings -/

/-- Whether a character can only be written by an escape. -/
def isControl (c : Char) : Bool := (c.toNat < 0x20 && c != '\t' && c != '\n') || c.toNat == 0x7F

/-- The length of the longest run of a character. -/
def longestRun (mark : Char) (s : List Char) : Nat :=
  (s.foldl (fun (longest, current) c =>
    let current := if c = mark then current + 1 else 0
    (max longest current, current)) (0, 0)).1

/-- The escape for a character, if it needs one in a string of one line or of several. -/
def escape? (lines : Bool) (c : Char) : Option String :=
  match c with
  | '\x08' => some "\\b"
  | '\t' => some "\\t"
  | '\n' => if lines then none else some "\\n"
  | '\x0c' => some "\\f"
  | '\r' => some "\\r"
  | '\\' => some "\\\\"
  | c =>
    if isControl c then
      some (String.ofList ['\\', 'u', '0', '0', Text.hexDigit (c.toNat / 16) |>.toUpper,
        Text.hexDigit (c.toNat % 16) |>.toUpper])
    else none

/-- The inside of a string with escapes. Only so many quotes may stand side by side: the next is
escaped. -/
def escapeAll (lines : Bool) (quotes : Nat) : (run : Nat) → List Char → String
  | _, [] => ""
  | run, '"' :: r =>
    if run < quotes then "\"" ++ escapeAll lines quotes (run + 1) r
    else "\\\"" ++ escapeAll lines quotes 0 r
  | _, c :: r => (escape? lines c).getD c.toString ++ escapeAll lines quotes 0 r

/-- A string of one line with escapes. -/
def basicText (s : List Char) : String := "\"" ++ escapeAll false 0 0 s ++ "\""

/-- A string without escapes. -/
def literalText (s : List Char) : String := "'" ++ String.ofList s ++ "'"

/-- A string between three quotes. Its first line stands below them when it has several. -/
def linesText (quotes : String) (s : List Char) (content : String) : String :=
  quotes ++ (if s.contains '\n' then "\n" else "") ++ content ++ quotes

/-- A string in the plainest form that can hold it. -/
def stringText (text : String) : String :=
  let s := text.toList
  let control := s.any isControl
  let backslash := s.contains '\\'
  let lines := s.contains '\n'
  if !control && !backslash && !s.contains '"' && !lines then basicText s
  else if !control && !s.contains '\'' && !lines then literalText s
  else if !control && !backslash && longestRun '"' s ≤ 2 then
    linesText "\"\"\"" s (escapeAll true 2 0 s)
  else if !control && longestRun '\'' s ≤ 2 then linesText "'''" s text
  else if lines then linesText "\"\"\"" s (escapeAll true 2 0 s)
  else basicText s

/-- A part of a key. -/
def keyText (text : String) : String :=
  let s := text.toList
  let control := s.any fun c => isControl c || c = '\n'
  if !s.isEmpty && s.all isBare then text
  else if !control && !s.contains '\\' && !s.contains '"' then basicText s
  else if !control && !s.contains '\'' then literalText s
  else basicText s

/-! ### Values -/

/-- A double: it has a point, so that it does not read as an integer. -/
def realText : Real64 → String
  | .finite x => { Real64.plainLayout with keepPoint := true }.text x
  | .infinite true => "-inf"
  | .infinite false => "inf"
  | .notANumber => "nan"

mutual

/-- A value on one line. -/
def Value.text : Value → String
  | .string s => stringText s
  | .integer n => toString n
  | .real x => realText x
  | .boolean true => "true"
  | .boolean false => "false"
  | .datetime t => t
  | .array items => "[" ++ String.intercalate ", " (Value.itemTexts items) ++ "]"
  | .table members => "\x7b " ++ String.intercalate ", " (Value.memberTexts members) ++ " \x7d"

/-- The items of an array. -/
def Value.itemTexts : List Value → List String
  | [] => []
  | v :: r => v.text :: Value.itemTexts r

/-- The members of a table. -/
def Value.memberTexts : List (String × Value) → List String
  | [] => []
  | (k, v) :: r => (keyText k ++ " = " ++ v.text) :: Value.memberTexts r

end

/-! ### Sections -/

/-- Whether a value is a table. -/
def Value.isTable : Value → Bool
  | .table _ => true
  | _ => false

/-- The lines of the values that are no tables. -/
def linesOf (members : List (String × Value)) : String :=
  String.join ((members.filter fun m => !m.2.isTable).map fun (k, v) =>
    keyText k ++ " = " ++ v.text ++ "\n")

/-- The header of a table. -/
def headerText (path : List String) : String :=
  "[" ++ String.intercalate "." (path.map keyText) ++ "]\n"

mutual

/-- The sections of a table at a path, and of the tables in it. -/
def Value.sections (path : List String) : Value → List String
  | .table members =>
    let own :=
      if members.isEmpty || members.any fun m => !m.2.isTable then
        [headerText path ++ linesOf members]
      else []
    own ++ Value.tableSections path members
  | _ => []

/-- The sections of the tables among members. -/
def Value.tableSections (path : List String) : List (String × Value) → List String
  | [] => []
  | (k, v) :: r => v.sections (path ++ [k]) ++ Value.tableSections path r

end

/-- Writes a table as a text. -/
def render (members : List (String × Value)) : String :=
  let first := linesOf members
  String.intercalate "\n"
    ((if first = "" then [] else [first]) ++ Value.tableSections [] members)

end DeviceRegistry.Toml
