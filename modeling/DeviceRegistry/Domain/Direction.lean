import DeviceRegistry.Text.Mark

/-!
# `DeviceRegistry.Domain.Direction`: labels in scripts of two directions

Text runs from left to right or from right to left. As soon as a domain holds a character of the
second kind, each of its labels has to keep one direction, so that its characters show in their
order and none strays into a neighbouring label.
-/

set_option autoImplicit false

namespace DeviceRegistry.Domain

open DeviceRegistry.Text (CodeSet)

/-- How a character takes part in the direction of a text. -/
inductive Direction where
  | leftToRight
  | rightToLeft
  | arabicNumber
  | europeanNumber
  | neutral
  | mark
  deriving DecidableEq, Repr

/-- The characters that run from right to left. Here and below, a range runs on across characters
that no domain holds. -/
def rightToLeftLetters : CodeSet :=
  .ofTable
    "5be 5c0 5c3 5c6 5d0-5f4 608 60b 60d 61b-64a 66d-66f 671-6d5 6e5-6e6 6ee-6ef 6fa-710 712-72f
     74d-7a5 7b1-7ea 7f4-7f5 7fa 7fe-815 81a 824 828 830-858 85e-88f 8a0-8c9 fbb2-fbc2 fe73
     10800-1091b 10920-10a00 10a10-10a35 10a40-10ae4 10aeb-10b35 10b40-10d23 10d4a-10d4f
     10d6f-10d8f 10e80-10ea9 10ead-10ec7 10f00-10f45 10f51-10f81 10f86-10ff6 1e800-1e8cf
     1e922-1e943 1e94b-1ed3d"

/-- The digits that run against the letters around them. -/
def arabicNumbers : CodeSet := .ofTable "660-669 66b-66c 10d30-10d49 10e60-10e7e"

/-- The digits beyond ASCII that run from left to right. -/
def europeanNumbers : CodeSet := .ofTable "6f0-6f9 102e1-102fb"

/-- The characters beyond ASCII that take the direction of what is around them. -/
def neutralCharacters : CodeSet :=
  .ofTable
    "a1-d7 f7 2b9-2ba 2c2-2cf 2d2-2ed 2ef-2ff 375 3f6 58a-58f 606-607 609-60a 60c 60e-60f 66a 6de
     6e9 7f6-7f9 9f2-9f3 9fb af1 bf3-bfa c78-c7e e3f f3a-f3d 1390-1399 1400 169b-169c 17db
     17f0-180a 1940-1945 19de-19ff 200c-20c1 2104-214d 218a-2335 237b-2394 2396-26ab 26ad-27ff
     2900-2bff 2ce5-2cea 2cf9-2cff 2e00-3004 3008-3020 3030 3037 303d-303f 30a0 30fb 31c0-31e5
     4dc0-4dff a490-a4c6 a60d-a60f a673 a67e-a67f a700-a721 a788 a828-a82b a838-a839 a874-a877
     ab6a-ab6b fbc3-fdff fe45-fe46 10101 10140-1018c 10190-101a0 1091f 10b39-10b3f 10d6e
     10ed0-10ed8 11052-11065 11660-1166c 11fd5-11ff1 16fe2 1cc00-1cef0 1d1e9-1d241 1d245
     1d300-1d356 1e2ff 1eef0-1f12f 1f16d-1f16f 1f1ad 1f260-1fbfa"

/-- The marks that show as if they were letters. -/
def letterMarks : CodeSet := .ofTable "cbf cc6 11a07-11a08 11c3f"

namespace Direction

/-- The direction of a character. -/
def ofChar (c : Char) : Direction :=
  if c.toNat < 0x80 then
    if c.isDigit then europeanNumber else if c.isAlpha then leftToRight else neutral
  else if rightToLeftLetters.holds c then rightToLeft
  else if arabicNumbers.holds c then arabicNumber
  else if europeanNumbers.holds c then europeanNumber
  else if Text.isNonspacing c && !letterMarks.holds c then mark
  else if neutralCharacters.holds c then neutral
  else leftToRight

/-- Whether a direction makes a domain one of two directions. -/
def isForeign (d : Direction) : Bool := d = rightToLeft || d = arabicNumber

/-- The directions of a label without the marks at its end. -/
def withoutMarks (l : List Direction) : List Direction := (l.reverse.dropWhile (· = mark)).reverse

/-- Whether a label keeps one direction: it begins with a letter, whose direction all others have,
it ends with a letter or a number, and where it runs from right to left, its numbers are all of one
kind. An empty label does. -/
def isOneWay (l : List Direction) : Bool :=
  match l with
  | [] => true
  | leftToRight :: _ =>
    l.all (fun d => !isForeign d) &&
      (withoutMarks l).getLast?.all fun d => d = leftToRight || d = europeanNumber
  | rightToLeft :: _ =>
    l.all (· ≠ leftToRight) && (withoutMarks l).getLast?.all (fun d => d ≠ neutral) &&
      !(l.contains arabicNumber && l.contains europeanNumber)
  | _ => false

end Direction

/-- The directions of the characters of a label. -/
def directions (label : List Char) : List Direction := label.map Direction.ofChar

/-- Whether the labels of a domain keep one direction each, which only matters where some character
runs from right to left. -/
def areOneWay (labels : List (List Char)) : Bool :=
  let all := labels.map directions
  !all.any (·.any Direction.isForeign) || all.all Direction.isOneWay

end DeviceRegistry.Domain
