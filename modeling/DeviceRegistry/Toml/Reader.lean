import DeviceRegistry.Toml.Token

/-!
# `DeviceRegistry.Toml.Reader`: reading TOML

A text is a sequence of lines: keys with values, and headers that say which table the keys that
follow belong to. `parse` reads a text into its table, or refuses it as a whole.
-/

set_option autoImplicit false

namespace DeviceRegistry.Toml

/-- How deep values may be nested, and how many parts a key may have. -/
def greatestDepth : Nat := 79

/-- Reads the items of an array behind its bracket, at most `fuel` of them. -/
def readItems (item : Reader Value) : (fuel : Nat) → Reader (List Value)
  | 0, _ => none
  | fuel + 1, s =>
    match skipLines (s.length + 1) s with
    | ']' :: r => some ([], r)
    | s => do
      let (v, r) ← item s
      match skipLines (r.length + 1) r with
      | ',' :: r =>
        let (vs, r) ← readItems item fuel r
        return (v :: vs, r)
      | ']' :: r => return ([v], r)
      | _ => none

/-- Reads a key with its value. -/
def readPair (item : Reader Value) : Reader ((List String × String) × Value) := fun s => do
  let (key, r) ← readKey greatestDepth s
  match skipSpace r with
  | '=' :: r =>
    let (v, r) ← item (skipSpace r)
    return ((key, v), r)
  | _ => none

/-- Reads the members of a table in one line, at most `fuel` of them, into those before. -/
def readMembers (item : Reader Value) : (fuel : Nat) → Nodes → Reader Nodes
  | 0, _, _ => none
  | fuel + 1, ms, s => do
    let (((path, name), v), r) ← readPair item s
    let ms ← Nodes.addValue path name v .explicit ms
    match skipSpace r with
    | ',' :: r => readMembers item fuel ms r
    | '\x7d' :: r => return (ms, r)
    | _ => none

/-- Reads a value of at most `depth` levels. -/
def readValue : (depth : Nat) → Reader Value
  | 0, s =>
    match s with
    | '[' :: _ => none
    | '\x7b' :: _ => none
    | s => readScalar s
  | depth + 1, s =>
    match s with
    | '[' :: r => (readItems (readValue depth) (r.length + 1) r).map fun (vs, r) => (.array vs, r)
    | '\x7b' :: r =>
      match skipSpace r with
      | '\x7d' :: r => some (.table [], r)
      | r => do
        let (ms, r) ← readMembers (readValue depth) (r.length + 1) [] r
        return (.table (Node.membersValue ms), r)
    | s => readScalar s

/-- A text that is being read: its tree, and the path of the table that keys belong to. -/
structure Document where
  tree : Nodes := []
  header : List String := []

/-- Reads the rest of a header behind its brackets. -/
def readHeader (close : List Char) (open_ : List String → String → Nodes → Option Nodes)
    (d : Document) : Reader Document := fun s => do
  let ((path, name), r) ← readKey greatestDepth s
  if r.take close.length = close then
    let r ← endLine (r.drop close.length)
    let tree ← open_ path name d.tree
    return (⟨tree, path ++ [name]⟩, r)
  else none

/-- Reads a line. -/
def readLine (d : Document) : Reader Document := fun s =>
  match skipSpace s with
  | [] => some (d, [])
  | '#' :: r => (endLine ('#' :: r)).map (d, ·)
  | '\n' :: r => some (d, r)
  | '\r' :: '\n' :: r => some (d, r)
  | '[' :: '[' :: r => readHeader [']', ']'] Nodes.openItem d r
  | '[' :: r => readHeader [']'] Nodes.openTable d r
  | s => do
    let (((path, name), v), r) ← readPair (readValue greatestDepth) s
    let tree ← Nodes.within false d.header (Nodes.addValue path name v) .explicit d.tree
    let r ← endLine r
    return (⟨tree, d.header⟩, r)

/-- Reads lines, at most `fuel` of them. -/
def readDocument : (fuel : Nat) → Document → List Char → Option Document
  | 0, _, _ => none
  | _, d, [] => some d
  | fuel + 1, d, s => do
    let (d, r) ← readLine d s
    readDocument fuel d r

/-- Reads a text as a table. A mark of the byte order in front does not count. -/
def parse (text : String) : Option (List (String × Value)) := do
  let s := text.toList
  let s := if s.head? = some '\uFEFF' then s.drop 1 else s
  let d ← readDocument (s.length + 1) {} s
  return Node.membersValue d.tree

end DeviceRegistry.Toml
