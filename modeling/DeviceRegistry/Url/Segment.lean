import DeviceRegistry.Url.Percent

/-!
# `DeviceRegistry.Url.Segment`: the segments of a path

A path is read one segment at a time, each against those before it (`Trail`). A dot names the place
itself and two dots the one above. No path leads out of a drive: the place above `C:` is `C:` again,
whatever the scheme. In the path of a file, a drive at the front is written with a colon and leaves
no room for a host.
-/

set_option autoImplicit false

namespace DeviceRegistry.Url

/-- Whether a character is passed over wherever it stands. -/
def isIgnored (c : Char) : Bool := c = '\t' || c = '\n' || c = '\r'

/-- A text without the characters that are passed over. -/
def withoutIgnored (s : List Char) : List Char := s.filter fun c => !isIgnored c

/-- Whether a segment stands for the place above. -/
def isDoubleDot (s : String) : Bool :=
  ["..", "%2e%2e", "%2e.", ".%2e"].contains (String.ofList (s.toList.map Char.toLower))

/-- Whether a segment stands for the place itself. -/
def isSingleDot (s : String) : Bool :=
  [".", "%2e"].contains (String.ofList (s.toList.map Char.toLower))

/-! ### Drives -/

/-- The letter of a drive, which a colon or a bar follows. -/
def driveLetter? : List Char → Option Char
  | [a, b] => if a.isAlpha && (b = ':' || b = '|') then some a else none
  | _ => none

/-- Whether a segment is a drive, or begins with one that a backslash ends. -/
def beginsWithDrive (s : String) : Bool :=
  (driveLetter? (s.toList.take 2)).isSome && ((s.toList.drop 2).head?.all (· = '\\'))

/-- Splits a segment behind a drive, where a character that is passed over sets off the rest. -/
def splitDrive? (s : List Char) : Option (Char × List Char) :=
  match s.dropWhile isIgnored with
  | a :: r =>
    match r.dropWhile isIgnored with
    | ':' :: gap :: rest =>
      if a.isAlpha && isIgnored gap && !(withoutIgnored rest).isEmpty then some (a, rest) else none
    | _ => none
  | [] => none

/-! ### Reading -/

/-- How far a path is read. -/
structure Trail where
  items : List String := []
  /-- Whether the path of a file has a drive at its front. -/
  hasDrive : Bool := false
  deriving DecidableEq, Repr

namespace Trail

/-- Goes up by one place, unless that leads out of a drive. -/
def up (t : Trail) : Trail :=
  if t.items.getLast?.any beginsWithDrive then t else { t with items := t.items.dropLast }

/-- Goes down to a place. -/
def down (t : Trail) (segment : String) : Trail := { t with items := t.items ++ [segment] }

/-- Reads a segment. Where it is the last one, a dot leaves a slash behind. -/
def step (file : Bool) (set : EncodeSet) (last : Bool) (t : Trail) (s : List Char) : Trail :=
  let segment := percentEncode set (withoutIgnored s)
  let close (t : Trail) : Trail := if last then t.down "" else t
  if isDoubleDot segment then close t.up
  else if isSingleDot segment then close t
  else if file && t.items.isEmpty then
    match driveLetter? segment.toList, splitDrive? s with
    | some a, _ => { t.down (String.ofList [a, ':']) with hasDrive := true }
    | none, some (a, rest) =>
      (t.down (String.ofList [a, ':'])).down (percentEncode set (withoutIgnored rest))
    | none, none => t.down segment
  else t.down segment

/-- Reads all segments of a path. -/
def steps (file : Bool) (set : EncodeSet) : Trail → List (List Char) → Trail
  | t, [] => t
  | t, [s] => t.step file set true s
  | t, s :: r => steps file set (t.step file set false s) r

end Trail

end DeviceRegistry.Url
