import DeviceRegistry.Text.Composed.Table

/-!
# `DeviceRegistry.Text.Composed`: one form for letters with marks

The same letter with the same marks can be written in several ways. `composed` gives them one form:
every character is taken apart into a letter and marks, the marks are put in order, and what has a
single character is put together again. Syllables of Hangul are put together by calculation. A
character that stands for another one altogether is none of this module's business.
-/

set_option autoImplicit false

namespace DeviceRegistry.Text

/-! ### Tables -/

/-- A letter, a mark, and the character for both. -/
structure Composition where
  letter : Nat
  mark : Nat
  both : Nat
  deriving DecidableEq, Repr

/-- The characters that stand for a letter with a mark. -/
def compositions : List Composition :=
  compositionTable.flatMap fun (mark, table) =>
    (words table).filterMap fun word =>
      match codesOf '=' word with
      | [letter, both] => some ⟨letter, mark, both⟩
      | _ => none

/-- The class of a mark, or 0 for any other character. ASCII has no marks. -/
def markClass (c : Char) : Nat :=
  if c.toNat < 0x300 then 0 else ((markClasses.find? (·.2.holds c)).map (·.1)).getD 0

/-! ### Syllables of Hangul -/

namespace Hangul

/-- The first syllable, leading consonant, vowel, and the place before the first final consonant. -/
def syllable : Nat := 0xAC00
def leading : Nat := 0x1100
def vowel : Nat := 0x1161
def final : Nat := 0x11A7

/-- The parts of a syllable. -/
def parts? (n : Nat) : Option (Nat × Nat) :=
  if syllable ≤ n ∧ n < syllable + 19 * 588 then
    let i := n - syllable
    if i % 28 = 0 then some (leading + i / 588, vowel + i % 588 / 28)
    else some (n - i % 28, final + i % 28)
  else none

/-- The syllable of two parts: two consonants and vowels, or a syllable and a final consonant. -/
def join? (a b : Nat) : Option Nat :=
  if leading ≤ a ∧ a < leading + 19 ∧ vowel ≤ b ∧ b < vowel + 21 then
    some (syllable + (a - leading) * 588 + (b - vowel) * 28)
  else if syllable ≤ a ∧ a < syllable + 19 * 588 ∧ (a - syllable) % 28 = 0 ∧ final < b ∧
      b < final + 28 then
    some (a + (b - final))
  else none

end Hangul

/-! ### Taking apart and putting together -/

/-- The letter and the mark of a character. -/
def parts? (c : Char) : Option (Char × Char) :=
  let n := c.toNat
  if n < 0xC0 then none
  else
    let listed := compositions.find? fun p => p.both = n
    let found := (Hangul.parts? n).or (listed.map fun p => (p.letter, p.mark))
    found.map fun (a, b) => (Char.ofNat a, Char.ofNat b)

/-- The character for a letter and a mark. -/
def join? (letter mark : Char) : Option Char :=
  let (a, b) := (letter.toNat, mark.toNat)
  if b < 0x300 then none
  else
    let listed := compositions.find? fun p => p.letter = a && p.mark = b
    ((Hangul.join? a b).or (listed.map (·.both))).map Char.ofNat

/-- A character taken apart. No character consists of more than four others. -/
def decompose : (fuel : Nat) → Char → List Char
  | 0, c => [c]
  | fuel + 1, c =>
    match parts? c with
    | some (letter, mark) => decompose fuel letter ++ [mark]
    | none => [c]

/-- Puts a mark behind the marks of the same or a lower class. The text is held last character
first. -/
def insertMark (c : Char) : List Char → List Char
  | [] => [c]
  | d :: r =>
    if 0 < markClass c ∧ markClass c < markClass d then d :: insertMark c r else c :: d :: r

/-- A text with the marks of every letter in order. -/
def ordered (s : List Char) : List Char := (s.foldl (fun seen c => insertMark c seen) []).reverse

/-- A text on the way to its composed form. -/
structure Composing where
  /-- What is finished, last character first. -/
  done : List Char := []
  /-- The letter that takes marks. -/
  letter : Option Char := none
  /-- The marks that the letter did not take, last mark first. -/
  marks : List Char := []

namespace Composing

/-- The text so far, last character first. -/
def written (t : Composing) : List Char := t.marks ++ t.letter.toList ++ t.done

/-- Goes on to the next character, which stands on its own or is a mark. -/
def append (t : Composing) (c : Char) : Composing :=
  if markClass c = 0 then { done := t.written, letter := some c }
  else if t.letter.isNone then { t with done := c :: t.done }
  else { t with marks := c :: t.marks }

/-- Reads a character. The letter takes it unless a mark of the same or a higher class stands
between the two. -/
def step (t : Composing) (c : Char) : Composing :=
  if t.marks.head?.any (markClass c ≤ markClass ·) then t.append c
  else
    match t.letter.bind (join? · c) with
    | some both => { t with letter := some both }
    | none => t.append c

end Composing

/-- A text in which letters and marks are put together as far as they can be. -/
def composed (s : List Char) : List Char :=
  let parts := ordered (s.flatMap (decompose 4))
  (parts.foldl Composing.step {}).written.reverse

end DeviceRegistry.Text
