import DeviceRegistry.Number.Decimal
import DeviceRegistry.Text.Quoted

/-!
# `DeviceRegistry.Yaml.Scalar`: how YAML holds a text

A text stands as it is when it would be read back as that text, else between single quotes, or
between double quotes with escapes when it has characters that would not show. A text of several
lines is a block of lines if it can be.
-/

set_option autoImplicit false

namespace DeviceRegistry.Yaml

/-! ### Texts that look like something else -/

/-- Whether a text is a word for a value that is no text. -/
def isReserved (s : String) : Bool :=
  ["null", "Null", "NULL", "~", "true", "True", "TRUE", "false", "False", "FALSE", ".nan", ".NaN",
    ".NAN", ".inf", ".Inf", ".INF", "+.inf", "+.Inf", "+.INF", "-.inf", "-.Inf", "-.INF"].contains s

/-- The value of a digit in a base up to 16. -/
def digitValue? (base : Nat) (c : Char) : Option Nat :=
  let n :=
    if c.isDigit then c.toNat - 0x30
    else if 'a' ≤ c ∧ c ≤ 'f' then c.toNat - 0x57
    else if 'A' ≤ c ∧ c ≤ 'F' then c.toNat - 0x37
    else base
  if n < base then some n else none

/-- The number that a text of digits in a base stands for. -/
def numberIn? (base : Nat) (s : List Char) : Option Nat :=
  if s.isEmpty then none
  else s.foldlM (fun n c => (digitValue? base c).map fun d => n * base + d) 0

/-- The number that a text in another base than ten stands for. -/
def based? : List Char → Option Nat
  | '0' :: 'x' :: r => numberIn? 16 r
  | '0' :: 'o' :: r => numberIn? 8 r
  | '0' :: 'b' :: r => numberIn? 2 r
  | _ => none

/-- Whether a text is an integer in another base than ten, of at most 128 bits. -/
def isBased (s : List Char) : Bool :=
  let (negative, digits) := Decimal.splitSign s
  match based? digits with
  | some n => if negative then n ≤ 1 <<< 127 else n < 1 <<< 128
  | none => false

/-- Whether a text is digits, with a sign perhaps, that start with a zero too many. -/
def hasIdleZero (s : List Char) : Bool :=
  match (Decimal.splitSign s).2 with
  | '0' :: c :: r => (c :: r).all Char.isDigit
  | _ => false

/-- Whether a text is a number in decimal notation that is not too large for a double. -/
def isDecimal (s : List Char) : Bool :=
  match Decimal.real? s with
  | some (.finite _) => true
  | _ => false

/-- Whether a text would be read as something else than a text. -/
def isAmbiguous (s : String) : Bool :=
  s.isEmpty || isReserved s || isBased s.toList || hasIdleZero s.toList || isDecimal s.toList

/-! ### Characters -/

/-- Whether a character ends a line. -/
def isBreak (c : Char) : Bool :=
  c == '\n' || c == '\r' || c.toNat == 0x85 || c.toNat == 0x2028 || c.toNat == 0x2029

/-- Whether a character can stand for itself. -/
def isPrintable (c : Char) : Bool :=
  let n := c.toNat
  n == 0x0A || (0x20 ≤ n && n ≤ 0x7E) ||
    (0xA0 ≤ n && n != 0xFEFF && n != 0xFFFE && n != 0xFFFF)

/-- Whether a character, or the end of the text, separates words. -/
def isGap : Option Char → Bool
  | none => true
  | some c => c == ' ' || c == '\t' || isBreak c

/-- Whether a character starts something else than a text. -/
def isIndicator (c : Char) : Bool := "#,[]\x7b\x7d&*!|>'\"%@\x60".toList.contains c

/-- Whether the rest of a text has a colon in front of a gap, or a number sign behind one. -/
def hasMark : (behindGap : Bool) → List Char → Bool
  | _, [] => false
  | behindGap, c :: r =>
    (c == ':' && isGap r.head?) || (c == '#' && behindGap) || hasMark (isGap (some c)) r

/-- Whether a text would be read as the start of something else. -/
def hasIndicator (s : List Char) : Bool :=
  let marker := s.take 3
  marker == ['-', '-', '-'] || marker == ['.', '.', '.'] ||
    match s with
    | [] => false
    | c :: r =>
      isIndicator c || ((c == '?' || c == ':' || c == '-') && isGap r.head?) ||
        hasMark (isGap (some c)) r

/-- Whether a text has a pair of neighbours of two kinds. -/
def hasPair (first second : Char → Bool) : List Char → Bool
  | a :: b :: r => (first a && second b) || hasPair first second (b :: r)
  | _ => false

/-! ### Styles -/

/-- How a text is written. -/
inductive Style where
  | plain
  | singleQuoted
  | doubleQuoted
  /-- As a block of lines. -/
  | block
  deriving DecidableEq, Repr

/-- The style of a text. A block ends where its last line does, so it cannot end with a space. -/
def styleOf (text : String) : Style :=
  let s := text.toList
  let space (c : Char) : Bool := c == ' '
  let outer (c : Option Char) : Bool := c.any fun c => space c || isBreak c
  let strange := s.any (fun c => !isPrintable c) || hasPair space isBreak s
  if s.contains '\n' then
    if strange || s.getLast? == some ' ' then .doubleQuoted else .block
  else if strange || hasPair isBreak space s then .doubleQuoted
  else if isAmbiguous text || hasIndicator s || s.any isBreak || outer s.head? ||
      outer s.getLast? then
    .singleQuoted
  else .plain

/-- A number in base 16 of a width, in upper case. -/
def upperHex (width n : Nat) : List Char :=
  let digits := (Nat.toDigits 16 n).map Char.toUpper
  List.replicate (width - digits.length) '0' ++ digits

/-- A character between double quotes. -/
def doubleQuotedChar (c : Char) : List Char :=
  match c.toNat with
  | 0x00 => ['\\', '0']
  | 0x07 => ['\\', 'a']
  | 0x08 => ['\\', 'b']
  | 0x09 => ['\\', 't']
  | 0x0A => ['\\', 'n']
  | 0x0B => ['\\', 'v']
  | 0x0C => ['\\', 'f']
  | 0x0D => ['\\', 'r']
  | 0x1B => ['\\', 'e']
  | 0x22 => ['\\', '"']
  | 0x5C => ['\\', '\\']
  | 0x85 => ['\\', 'N']
  | 0x2028 => ['\\', 'L']
  | 0x2029 => ['\\', 'P']
  | n =>
    if isPrintable c then [c]
    else if n ≤ 0xFF then '\\' :: 'x' :: upperHex 2 n
    else if n ≤ 0xFFFF then '\\' :: 'u' :: upperHex 4 n
    else '\\' :: 'U' :: upperHex 8 n

/-- Blanks that set a text in. -/
def margin (blanks : Nat) : List Char := List.replicate blanks ' '

/-- A text with blanks in front of what follows a line end. -/
def indented (blanks : Nat) : (fresh : Bool) → List Char → List Char
  | _, [] => []
  | fresh, c :: r =>
    if isBreak c then c :: indented blanks true r
    else (if fresh then margin blanks else []) ++ c :: indented blanks false r

/-- A text on the line that it starts on, in a style that is no block. -/
def inlineText (blanks : Nat) (text : String) : String :=
  match styleOf text with
  | .plain => text
  | .singleQuoted =>
    let doubled := text.toList.flatMap fun c => if c = '\'' then ['\'', '\''] else [c]
    let last := if doubled.getLast?.any isBreak then margin blanks else []
    "'" ++ String.ofList (indented blanks false doubled ++ last) ++ "'"
  | _ => "\"" ++ String.ofList (text.toList.flatMap doubleQuotedChar) ++ "\""

/-- The lines of a text, the ends of lines dropped. -/
def splitLines (s : List Char) : List (List Char) :=
  let rec go (line : List Char) : List Char → List (List Char)
    | [] => if line.isEmpty then [] else [line.reverse]
    | '\n' :: r => line.reverse :: go [] r
    | c :: r => go (c :: line) r
  go [] s

/-- What stands behind the bar of a block: the indentation if the first line does not show it, and
whether line ends at the end are dropped or kept. -/
def blockHints (s : List Char) : String :=
  let first := if s.head?.any (fun c => c == ' ' || isBreak c) then "2" else ""
  let last := match s.reverse with
    | c :: d :: _ => if !isBreak c then "-" else if isBreak d then "+" else ""
    | [c] => if isBreak c then "+" else "-"
    | [] => "-"
  first ++ last

/-- A line of a document. -/
structure Line where
  text : String
  /-- Whether a line end follows. A text that ends with another kind of line end needs none. -/
  isOpen : Bool := true
  deriving DecidableEq, Repr

/-- The lines of a block. -/
def blockLines (blanks : Nat) (s : List Char) : List Line :=
  let lines := splitLines s
  lines.zipIdx.map fun (line, i) =>
    ⟨String.ofList (indented blanks true line),
      i + 1 < lines.length || !s.getLast?.any isBreak || s.getLast? = some '\n'⟩

end DeviceRegistry.Yaml
