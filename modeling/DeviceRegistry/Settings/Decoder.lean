import DeviceRegistry.Settings.Value

/-!
# `DeviceRegistry.Settings.Decoder`: the meaning of a tree

A decoder says what the tree at a place means, or what is wrong and where (`Fault`). The members of
a table are decoded in the order of their names, so that the first of several faults is the one with
the least name. A record may also be written as a list, its fields by position.
-/

set_option autoImplicit false

namespace DeviceRegistry.Settings

/-- What is wrong with a value. -/
inductive Mismatch where
  /-- It is a value of another kind. -/
  | kind (found : Value) (expected : String)
  /-- It is a number out of range. -/
  | range (found : Value) (expected : String)
  /-- It is a table without a member that it needs. -/
  | missing (name : String)
  /-- It is a list with too few items. -/
  | length (items : Nat) (expected : String)
  deriving Repr

/-- The text of a mismatch. -/
def Mismatch.message : Mismatch → String
  | kind v expected => s!"invalid type: found {v.found}, expected {expected}"
  | range v expected => s!"invalid value {v.found}, expected {expected}"
  | missing name => s!"missing field \x60{name}\x60"
  | length items expected => s!"invalid length {items}, expected {expected}"

/-- What is wrong, and the path to it. -/
structure Fault where
  path : List String
  mismatch : Mismatch
  deriving Repr

/-- The meaning of trees. -/
abbrev Decoder (α : Type) := Value → Except Fault α

/-- What is wrong at the place itself. -/
def here {α : Type} (m : Mismatch) : Except Fault α := .error ⟨[], m⟩

/-- Sets what is wrong below a member. -/
def below {α : Type} (name : String) (r : Except Fault α) : Except Fault α :=
  r.mapError fun f => { f with path := name :: f.path }

namespace Decoder

/-- A text that messages describe in some words. -/
def text (expected : String) : Decoder String
  | .string s => .ok s
  | v => here (.kind v expected)

/-- A text. -/
def string : Decoder String := text "a string"

/-- The name of a file. -/
def path : Decoder String := text "path string"

/-- A switch. -/
def boolean : Decoder Bool
  | .boolean b => .ok b
  | v => here (.kind v "a boolean")

/-- A whole number of 64 bits without a sign. -/
def word (expected : String) : Decoder UInt64
  | .unsigned n => .ok n
  | .signed n => if n < 0 then here (.range (.signed n) expected) else .ok n.toUInt64
  | v => here (.kind v expected)

/-- A member that has a value whenever it is there. -/
def optional {α : Type} (d : Decoder α) : Decoder (Option α) := fun v => (d v).map some

/-- The members of a table, each decoded alike. -/
def members {α : Type} (d : Decoder α) : Decoder (List (String × α))
  | .table ms => ms.mapM fun (name, v) => do return (name, ← below name (d v))
  | v => here (.kind v "a map")

end Decoder

/-! ### Records -/

/-- A field of a record. -/
structure Field (ρ : Type) where
  name : String
  /-- Whether a list may end before the field. -/
  mayEnd : Bool
  set : Value → ρ → Except Fault ρ

/-- A field that a decoder reads. -/
def Field.of {ρ α : Type} (name : String) (mayEnd : Bool) (d : Decoder α) (set : α → ρ → ρ) :
    Field ρ where
  name := name
  mayEnd := mayEnd
  set v r := (d v).map fun a => set a r

/-- A record: what it is called, what it is when nothing is set, and its fields by position. -/
structure Record (ρ : Type) where
  name : String
  blank : ρ
  fields : List (Field ρ)
  /-- The members that a table must have. -/
  required : List String := []

namespace Record

variable {ρ : Type}

/-- Sets the fields that members name. Other members have no meaning. -/
def setMembers (fields : List (Field ρ)) : Table → ρ → Except Fault ρ
  | [], r => .ok r
  | (name, v) :: ms, r =>
    match fields.find? fun f => f.name = name with
    | some f => do setMembers fields ms (← below name (f.set v r))
    | none => setMembers fields ms r

/-- Sets the fields in turn, the next one by the item at a position. -/
def setItems (tooShort : Nat → Mismatch) :
    (position : Nat) → List (Field ρ) → List Value → ρ → Except Fault ρ
  | _, [], _, r => .ok r
  | i, f :: fs, [], r => if f.mayEnd then setItems tooShort (i + 1) fs [] r else here (tooShort i)
  | i, f :: fs, v :: vs, r => do
    setItems tooShort (i + 1) fs vs (← below (Nat.repr i) (f.set v r))

/-- Reads a record. -/
def decoder (d : Record ρ) : Decoder ρ
  | .table ms => do
    let r ← setMembers d.fields ms d.blank
    match d.required.find? fun name => (ms.lookup name).isNone with
    | some name => here (.missing name)
    | none => return r
  | .list vs =>
    setItems (.length · s!"struct {d.name} with {d.fields.length} elements") 0 d.fields vs d.blank
  | v => here (.kind v s!"struct {d.name}")

end Record

end DeviceRegistry.Settings
