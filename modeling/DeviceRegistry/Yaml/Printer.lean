import DeviceRegistry.Json.Printer
import DeviceRegistry.Yaml.Scalar

/-!
# `DeviceRegistry.Yaml.Printer`: documents as YAML

`render` writes a document with one item or member a line, in the order of the document. A value is
a list of lines: the first goes on with the line that the value starts on, and each other one has
its blanks.
-/

set_option autoImplicit false

namespace DeviceRegistry.Yaml

open DeviceRegistry.Json (Value Number)

/-- Doubles have a point or an exponent, and no sign for a positive exponent. -/
def realLayout : Binary64.Layout := { Json.fractionLayout with plusSign := false }

/-- The text of a number. -/
def numberText : Number → String
  | .whole n h => (Number.whole n h).text
  | .binary x => realLayout.text x

/-- The lines with something in front of the first. -/
def attach (front : String) : List Line → List Line
  | [] => [⟨front, true⟩]
  | first :: rest => { first with text := front ++ first.text } :: rest

/-- The lines with blanks in front of the first. -/
def shift (blanks : Nat) (lines : List Line) : List Line :=
  attach (String.ofList (margin blanks)) lines

/-- The lines of a text, those below the first with blanks. -/
def textLines (blanks : Nat) (text : String) : List Line :=
  if styleOf text = .block then
    ⟨"|" ++ blockHints text.toList, true⟩ :: blockLines blanks text.toList
  else [⟨inlineText blanks text, true⟩]

/-- Whether a name can stand in front of a colon without a mark of its own. -/
def isSimpleKey (name : String) : Bool := name.utf8ByteSize ≤ 128 && !name.toList.any isBreak

/-- The lines of a member, given those of its value: in line with the name, or below it. -/
def memberLines (blanks : Nat) (name : String) (value : List Line) (below : Option Nat) :
    List Line :=
  if isSimpleKey name then
    match below with
    | none => attach (inlineText (blanks + 2) name ++ ": ") value
    | some blanks' => ⟨inlineText (blanks + 2) name ++ ":", true⟩ :: shift blanks' value
  else
    attach "? " (textLines (blanks + 2) name) ++ shift blanks (attach ": " value)

mutual

/-- The lines of a document, those below the first with blanks. -/
def lines (blanks : Nat) : Value → List Line
  | .null => [⟨"null", true⟩]
  | .bool b => [⟨toString b, true⟩]
  | .number n => [⟨numberText n, true⟩]
  | .string s => textLines blanks s
  | .array items => if items.isEmpty then [⟨"[]", true⟩] else itemLines blanks items
  | .object members =>
    if members.isEmpty then [⟨"\x7b\x7d", true⟩] else membersLines blanks members

/-- The lines of items. -/
def itemLines (blanks : Nat) : List Value → List Line
  | [] => []
  | [v] => attach "- " (lines (blanks + 2) v)
  | v :: r => attach "- " (lines (blanks + 2) v) ++ shift blanks (itemLines blanks r)

/-- The lines of members. The items of a list stand right below the name, other members further
in. -/
def membersLines (blanks : Nat) : List (String × Value) → List Line
  | [] => []
  | (name, v) :: r =>
    let own := match v with
      | .array (w :: ws) =>
        if isSimpleKey name then memberLines blanks name (itemLines blanks (w :: ws)) (some blanks)
        else memberLines blanks name (itemLines (blanks + 2) (w :: ws)) none
      | .object (m :: ms) =>
        memberLines blanks name (membersLines (blanks + 2) (m :: ms)) (some (blanks + 2))
      | v => memberLines blanks name (lines (blanks + 2) v) none
    match r with
    | [] => own
    | m :: ms => own ++ shift blanks (membersLines blanks (m :: ms))

end

/-- Writes a document. -/
def render (v : Value) : String :=
  String.join ((lines 0 v).map fun line => if line.isOpen then line.text ++ "\n" else line.text)

end DeviceRegistry.Yaml
