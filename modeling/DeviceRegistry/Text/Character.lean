/-!
# `DeviceRegistry.Text.Character`: classes of characters

Which characters a text may hold is told by a rule or by a table. Rules are those for letters and
digits, for white space and for the digits of base 16. Tables are written as text: `41-5a aa` is the
set of the code points U+0041 to U+005A and U+00AA, and a `CodeSet` holds such a set as ranges.

Types, identifiers and path parameters are texts that are not empty and hold only characters of a
class. A `Pattern` is such a class with the description that messages show.
-/

set_option autoImplicit false

namespace DeviceRegistry.Text

/-! ### Letters and digits -/

/-- Whether a character is a letter from `a` to `z`. -/
def isLower (c : Char) : Bool := 'a' ≤ c && c ≤ 'z'

/-- Whether a character is a letter from `A` to `Z`. -/
def isUpper (c : Char) : Bool := 'A' ≤ c && c ≤ 'Z'

/-- Whether a character is a digit from `0` to `9`. -/
def isDigit (c : Char) : Bool := '0' ≤ c && c ≤ '9'

/-- Whether a character is one of these letters or digits. -/
def isAlphanumeric (c : Char) : Bool := isLower c || isUpper c || isDigit c

/-- A class of characters and how a message describes the texts over it. -/
structure Pattern where
  text : String
  admits : Char → Bool

/-- Whether a text is not empty and has allowed characters only. -/
def Pattern.isMatch (p : Pattern) (s : String) : Bool := !s.isEmpty && s.toList.all p.admits

/-! ### White space -/

/-- Whether a character is white space. -/
def isBlank (c : Char) : Bool :=
  let n := c.toNat
  (0x09 ≤ n && n ≤ 0x0D) || n == 0x20 || n == 0x85 || n == 0xA0 || n == 0x1680 ||
    (0x2000 ≤ n && n ≤ 0x200A) || n == 0x2028 || n == 0x2029 || n == 0x202F || n == 0x205F ||
    n == 0x3000

/-- Removes the blanks in front. -/
def trimFront (s : List Char) : List Char := s.dropWhile isBlank

/-- Removes the blanks behind. -/
def trimBack (s : List Char) : List Char := (s.reverse.dropWhile isBlank).reverse

/-! ### Base 16 -/

/-- The digit for a number below 16, in lower case. -/
def hexDigit (n : Nat) : Char :=
  if n < 10 then Char.ofNat (0x30 + n) else Char.ofNat (0x57 + n)

/-- A number in base 16, in lower case and without leading zeros. -/
def hex (n : Nat) : String := String.ofList (Nat.toDigits 16 n)

/-- The value of a hexadecimal digit. -/
def hexValue? (c : Char) : Option Nat :=
  if '0' ≤ c ∧ c ≤ '9' then some (c.toNat - 0x30)
  else if 'a' ≤ c ∧ c ≤ 'f' then some (c.toNat - 0x57)
  else if 'A' ≤ c ∧ c ≤ 'F' then some (c.toNat - 0x37)
  else none

/-- The value of a run of hexadecimal digits. A run without digits stands for zero. -/
def hexNumber? (digits : List Char) : Option Nat :=
  digits.foldlM (fun n c => (hexValue? c).map (n * 16 + ·)) 0

/-! ### Tables -/

/-- Splits at a character. There is one part more than there are such characters. -/
def splitAt (mark : Char) (s : List Char) : List (List Char) :=
  s.foldr (fun c parts =>
    if c = mark then [] :: parts
    else match parts with
      | part :: parts => (c :: part) :: parts
      | [] => [[c]]) [[]]

/-- The words of a table, which stand between spaces and line ends. -/
def words (table : String) : List (List Char) :=
  (splitAt ' ' (table.toList.map fun c => if c = '\n' then ' ' else c)).filter (!·.isEmpty)

/-- The code point that a word of a table names. -/
def codeOf (word : List Char) : Nat := (hexNumber? word).getD 0

/-- The code points that a word of a table names, with a mark between them. -/
def codesOf (mark : Char) (word : List Char) : List Nat := (splitAt mark word).map codeOf

/-- Code points that follow each other, ends included. -/
structure CodeRange where
  first : Nat
  last : Nat
  deriving DecidableEq, Repr

/-- Whether a code point is in a range. -/
def CodeRange.holds (r : CodeRange) (n : Nat) : Bool := r.first ≤ n && n ≤ r.last

/-- The range that a word of a table names. -/
def CodeRange.ofWord (word : List Char) : CodeRange :=
  let ends := codesOf '-' word
  ⟨ends.headD 0, ends.getLastD 0⟩

/-- A set of characters. -/
abbrev CodeSet := List CodeRange

namespace CodeSet

/-- The set that a table names. -/
def ofTable (table : String) : CodeSet := (words table).map CodeRange.ofWord

/-- Whether a character is in a set. -/
def holds (s : CodeSet) (c : Char) : Bool := s.any (·.holds c.toNat)

end CodeSet

end DeviceRegistry.Text
