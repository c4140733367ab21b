import DeviceRegistry.Number.Decimal
import DeviceRegistry.Settings.Value
import DeviceRegistry.Text.Character
import DeviceRegistry.Toml.Token

/-!
# `DeviceRegistry.Settings.Environment`: settings in variables

A variable whose name starts with `DEVREG_` sets what the rest of its name says: the path has its
parts between double underscores, without regard to case. The text of a variable may be a word of a
small language of values (`Value.ofText`); any other text stands for itself.
-/

set_option autoImplicit false

namespace DeviceRegistry.Settings

open DeviceRegistry.Toml (Reader)

/-! ### Texts of values -/

namespace Value

/-- Whether a character may stand between values. -/
def isGap (c : Char) : Bool := c = ' ' || c = '\t' || c = '\n' || c = '\r' || c = '\x0c'

/-- Passes over what may stand between values. -/
def skipGap (s : List Char) : List Char := s.dropWhile isGap

/-- Whether a character ends a value without quotes. -/
def isMark (c : Char) : Bool := c = ',' || c = '\x7b' || c = '\x7d' || c = '[' || c = ']'

/-- The double that a text with a point stands for. -/
def real? (s : List Char) : Option Value :=
  if s.contains '.' then (Decimal.real? s).map .real else none

/-- The integer of 64 bits that a text stands for: without a sign when it can do without. -/
def integer? (s : List Char) : Option Value :=
  let minus := s.head? = some '-'
  (Decimal.natural? (Decimal.splitSign s).2).bind fun n =>
    if !minus ∧ n < 0x10000000000000000 then some (.unsigned (UInt64.ofNat n))
    else if minus ∧ n ≤ 0x8000000000000000 then some (.signed (Int64.ofInt (-n)))
    else none

/-- What a text without quotes stands for. -/
def ofWord (s : List Char) : Value :=
  ((real? s).or (integer? s)).getD (.string (String.ofList s))

/-- Reads a name in a table. -/
def readName : Reader String := fun s =>
  match s with
  | '"' :: r => (Toml.readBasic (r.length + 1) r).map fun (cs, r) => (String.ofList cs, r)
  | s =>
    let name := s.takeWhile Toml.isBare
    if name.isEmpty then none else some (String.ofList name, s.drop name.length)

/-- Reads the items of a list behind its bracket, at most `fuel` of them. -/
def readItems (item : Reader Value) : (fuel : Nat) → Reader (List Value)
  | 0, _ => none
  | _, ']' :: r => some ([], r)
  | fuel + 1, s => do
    let (v, r) ← item s
    match r with
    | ',' :: r =>
      let (vs, r) ← readItems item fuel r
      return (v :: vs, r)
    | ']' :: r => return ([v], r)
    | _ => none

/-- Reads a member of a table. -/
def readMember (item : Reader Value) : Reader (String × Value) := fun s => do
  let (name, r) ← readName (skipGap s)
  match skipGap r with
  | '=' :: r =>
    let (v, r) ← item (skipGap r)
    return ((name, v), skipGap r)
  | _ => none

/-- Reads the members of a table behind its brace, at most `fuel` of them, into those before. -/
def readMembers (item : Reader Value) : (fuel : Nat) → Table → Reader Table
  | 0, _, _ => none
  | _, ms, '\x7d' :: r => some (ms, r)
  | fuel + 1, ms, s => do
    let ((name, v), r) ← readMember item s
    let ms := Table.alter name (fun _ => v) ms
    match r with
    | ',' :: r => readMembers item fuel ms r
    | '\x7d' :: r => return (ms, r)
    | _ => none

/-- Reads a value, of less than `fuel` levels. -/
def readText : (fuel : Nat) → Reader Value
  | 0, _ => none
  | fuel + 1, s =>
    let value : Option (Value × List Char) := match skipGap s with
      | 't' :: 'r' :: 'u' :: 'e' :: r => some (.boolean true, r)
      | 'f' :: 'a' :: 'l' :: 's' :: 'e' :: r => some (.boolean false, r)
      | '\x7b' :: r =>
        (readMembers (readText fuel) (r.length + 1) [] r).map fun (ms, r) => (.table ms, r)
      | '[' :: r => (readItems (readText fuel) (r.length + 1) r).map fun (vs, r) => (.list vs, r)
      | '"' :: r =>
        (Toml.readBasic (r.length + 1) r).map fun (cs, r) => (.string (String.ofList cs), r)
      | '\'' :: c :: '\'' :: r => some (.string c.toString, r)
      | '\'' :: _ => none
      | s =>
        let word := s.takeWhile fun c => !isMark c
        some (ofWord (Text.trimBack (Text.trimFront word)), s.drop word.length)
    value.map fun (v, r) => (v, skipGap r)

/-- What a text stands for. A text that is no word of the language stands for itself. -/
def ofText (s : String) : Value :=
  match readText (s.length + 1) s.toList with
  | some (v, []) => v
  | _ => .string s

end Value

/-! ### Variables -/

/-- The variables that are set, each once. -/
abbrev Environment := List (String × String)

/-- What a name starts with when the variable is a setting. -/
def variableMark : String := "DEVREG_"

/-- The path that a name without its mark says. -/
def pathOfName (s : List Char) : List String :=
  let rec parts (part : List Char) : List Char → List (List Char)
    | [] => [part.reverse]
    | '_' :: '_' :: r => part.reverse :: parts [] r
    | '.' :: r => part.reverse :: parts [] r
    | c :: r => parts (c.toLower :: part) r
  (parts [] (Text.trimBack (Text.trimFront s))).map String.ofList

/-- The path that a variable sets, if it is a setting. -/
def settingPath? (name : String) : Option (List String) :=
  let s := Text.trimFront name.toList
  let n := variableMark.length
  if (s.take n).map Char.toUpper = variableMark.toList then
    let path := pathOfName (s.drop n)
    if path.contains "" then none else some path
  else none

/-- The tree of all variables that are settings. A later name counts more than an earlier one. -/
def ofEnvironment (env : Environment) : Value :=
  let sorted := env.mergeSort fun a b => a.1 ≤ b.1
  let trees := sorted.filterMap fun (name, text) =>
    (settingPath? name).map fun path => Value.under path (Value.ofText text)
  trees.foldl (fun lower upper => upper.laidOver lower) (.table [])

end DeviceRegistry.Settings
