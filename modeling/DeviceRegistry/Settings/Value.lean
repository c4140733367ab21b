import DeviceRegistry.Text.Quoted
import DeviceRegistry.Toml.Value

/-!
# `DeviceRegistry.Settings.Value`: settings before they have a meaning

Whatever a source of settings says is a tree: tables whose members have a value each. The members of
a table stand in the order of their names, each name once. `laidOver` lays one tree over another,
and `at?` says what a tree has at a path.
-/

set_option autoImplicit false

namespace DeviceRegistry.Settings

/-- What is set at a place. A whole number has 64 bits; whether it may have a sign depends on where
it is written. -/
inductive Value where
  | string (s : String)
  | boolean (b : Bool)
  | unsigned (n : UInt64)
  | signed (n : Int64)
  | real (x : Real64)
  | list (items : List Value)
  | table (members : List (String × Value))
  deriving Repr, Inhabited

/-- The members of a table. -/
abbrev Table := List (String × Value)

/-- Changes the member of a name, or puts one at its place. -/
def Table.alter (name : String) (change : Option Value → Value) : Table → Table
  | [] => [(name, change none)]
  | (k, v) :: r =>
    if name < k then (name, change none) :: (k, v) :: r
    else if name = k then (name, change (some v)) :: r
    else (k, v) :: alter name change r

namespace Value

/-- What a tree has at a path. -/
def at? : (path : List String) → Value → Option Value
  | [], v => some v
  | name :: path, .table ms => (ms.lookup name).bind (at? path)
  | _ :: _, _ => none

/-- The tree that has one value, at a path. -/
def under (path : List String) (v : Value) : Value :=
  path.foldr (fun name v => .table [(name, v)]) v

mutual

/-- A tree laid over another. Tables are joined; of anything else only the upper one counts. -/
def laidOver : (upper lower : Value) → Value
  | .table us, .table ls => .table (overMembers us ls)
  | upper, _ => upper

/-- Lays the members of a table over those of another. -/
def overMembers : (upper lower : List (String × Value)) → List (String × Value)
  | [], lower => lower
  | (name, v) :: r, lower =>
    overMembers r (Table.alter name (fun w => (w.map fun w => v.laidOver w).getD v) lower)

end

/-! ### Trees of files -/

/-- The name of the one member of the table that a date or time stands for. -/
def datetimeMember : String := "$__toml_private_datetime"

mutual

/-- The tree that a value of a file stands for. -/
def ofToml : Toml.Value → Value
  | .string s => .string s
  | .integer n => .signed (Int64.ofInt n)
  | .real x => .real x
  | .boolean b => .boolean b
  | .datetime text => .table [(datetimeMember, .string text)]
  | .array items => .list (ofTomlItems items)
  | .table members => .table (ofTomlMembers members)

/-- The trees that the items of an array stand for. -/
def ofTomlItems : List Toml.Value → List Value
  | [] => []
  | v :: r => ofToml v :: ofTomlItems r

/-- The members that those of a table stand for, in order. -/
def ofTomlMembers : List (String × Toml.Value) → Table
  | [] => []
  | (name, v) :: r => Table.alter name (fun _ => ofToml v) (ofTomlMembers r)

end

/-! ### Messages -/

/-- How a message names a value that it did not expect. -/
def found : Value → String
  | .string s => s!"string {Text.quoted s}"
  | .boolean b => s!"bool {b}"
  | .unsigned n => s!"unsigned int \x60{n.toNat}\x60"
  | .signed n => s!"signed int \x60{n.toInt}\x60"
  | .real x => s!"float \x60{x.text}\x60"
  | .list _ => "sequence"
  | .table _ => "map"

end Value

end DeviceRegistry.Settings
