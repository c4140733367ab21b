import DeviceRegistry.Number.Decimal

/-!
# `DeviceRegistry.Toml.Value`: tables of settings

What a TOML text stands for, and the tree it is while its lines are read. A table of the tree
remembers how it came to be (`Shape`): only a table that no line has defined yet may be defined by a
header, and only one that dotted keys have made, or none has defined, may be extended by dotted
keys.
-/

set_option autoImplicit false

namespace DeviceRegistry.Toml

/-- A value. The members of a table stand in the order of the text, each name once. -/
inductive Value where
  | string (s : String)
  /-- An integer of 64 bits with a sign. -/
  | integer (n : Int)
  | real (x : Real64)
  | boolean (b : Bool)
  /-- A date, a time, or both with `T` between them, by the fewest characters. -/
  | datetime (text : String)
  | array (items : List Value)
  | table (members : List (String × Value))
  deriving Repr, Inhabited

/-- How a table came to be. -/
inductive Shape where
  /-- Defined by a header, or the whole text. -/
  | explicit
  /-- Named by the header of a table below it. -/
  | implicit
  /-- Named by a dotted key. -/
  | dotted
  deriving DecidableEq, Repr

/-- A part of the tree. -/
inductive Node where
  | leaf (v : Value)
  | table (shape : Shape) (members : List (String × Node))
  /-- An array of tables, the one that lines still go to first. -/
  | tables (newest : List (String × Node)) (older : List (List (String × Node)))

/-- The members of a table of the tree. -/
abbrev Nodes := List (String × Node)

mutual

/-- The value that a part of the tree stands for. -/
def Node.value : Node → Value
  | .leaf v => v
  | .table _ members => .table (Node.membersValue members)
  | .tables newest older =>
    .array ((.table (Node.membersValue newest) :: Node.tablesValue older).reverse)

/-- The members that a table of the tree stands for. -/
def Node.membersValue : List (String × Node) → List (String × Value)
  | [] => []
  | (k, n) :: r => (k, n.value) :: Node.membersValue r

/-- The tables that an array of the tree stands for. -/
def Node.tablesValue : List (List (String × Node)) → List Value
  | [] => []
  | t :: r => .table (Node.membersValue t) :: Node.tablesValue r

end

namespace Nodes

/-- Changes the node of a name, which need not exist yet. -/
def alter (name : String) (change : Option Node → Option Node) : Nodes → Option Nodes
  | [] => (change none).map fun n => [(name, n)]
  | (k, n) :: r =>
    if k = name then (change (some n)).map fun n => (k, n) :: r
    else (alter name change r).map ((k, n) :: ·)

/-- Changes the table at a path, making the tables on the way that do not exist. Dotted keys may not
pass through tables that are defined elsewhere. -/
def within (dotted : Bool) : (path : List String) → (change : Shape → Nodes → Option Nodes) →
    Shape → Nodes → Option Nodes
  | [], change, shape, ms => change shape ms
  | name :: path, change, _, ms =>
    ms.alter name fun
      | none =>
        let shape : Shape := if dotted then .dotted else .implicit
        (within dotted path change shape []).map (.table shape)
      | some (.leaf _) => none
      | some (.table shape ms) =>
        if dotted ∧ shape = .explicit then none
        else (within dotted path change shape ms).map (.table shape)
      | some (.tables newest older) =>
        (within dotted path change .explicit newest).map fun ms => .tables ms older

/-- Adds a value under a dotted key to a table. A key may be set once, and dotted keys only add to
tables that dotted keys have made. -/
def addValue (path : List String) (name : String) (v : Value) : Shape → Nodes → Option Nodes :=
  within true path fun shape ms =>
    if (shape = .dotted) = path.isEmpty then none
    else ms.alter name fun
      | none => some (.leaf v)
      | some _ => none

/-- Opens the table of a header. -/
def openTable (path : List String) (name : String) : Nodes → Option Nodes :=
  within false path (fun _ ms => ms.alter name fun
    | none => some (.table .explicit [])
    | some (.table .implicit ms) => some (.table .explicit ms)
    | some _ => none) .explicit

/-- Opens another table of an array of tables. -/
def openItem (path : List String) (name : String) : Nodes → Option Nodes :=
  within false path (fun _ ms => ms.alter name fun
    | none => some (.tables [] [])
    | some (.tables newest older) => some (.tables [] (newest :: older))
    | some _ => none) .explicit

end Nodes

end DeviceRegistry.Toml
