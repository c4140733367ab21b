import DeviceRegistry.Number.Binary64

/-!
# `DeviceRegistry.Json.Value`: documents

A JSON document as it is written: the members of an object stand in the order of the text and may
repeat a name. What a document *means* is its normal form: every object sorted by name, a repeated
name counting with its last value. Reading a text yields normal forms; a document that the registry
writes keeps the order of its kind, and `normalize` gives the value that it stands for.
-/

set_option autoImplicit false

namespace DeviceRegistry.Json

/-- A number: an integer of 64 bits, signed or not, or else a double. -/
inductive Number where
  | whole (n : Int) (inRange : -0x8000000000000000 ≤ n ∧ n < 0x10000000000000000)
  | binary (x : Binary64)
  deriving DecidableEq, Repr

/-- A small natural number. -/
def Number.ofNat (n : Nat) (h : n < 0x10000000000000000) : Number := .whole n (by omega)

/-- The number for an integer, or none outside the range of 64 bits. -/
def Number.ofInt? (n : Int) : Option Number :=
  if h : -0x8000000000000000 ≤ n ∧ n < 0x10000000000000000 then some (.whole n h) else none

/-- A document. -/
inductive Value where
  | null
  | bool (b : Bool)
  | number (n : Number)
  | string (s : String)
  | array (items : List Value)
  | object (members : List (String × Value))
  deriving Repr, Inhabited

/-- The members of an object. -/
abbrev Members := List (String × Value)

mutual

/-- Decides whether two documents are the same. -/
def Value.decEq : (a b : Value) → Decidable (a = b)
  | .null, .null => isTrue rfl
  | .bool a, .bool b => if h : a = b then isTrue (h ▸ rfl) else isFalse fun e => h (by injection e)
  | .number a, .number b =>
    if h : a = b then isTrue (h ▸ rfl) else isFalse fun e => h (by injection e)
  | .string a, .string b =>
    if h : a = b then isTrue (h ▸ rfl) else isFalse fun e => h (by injection e)
  | .array a, .array b =>
    match Value.decEqItems a b with
    | isTrue h => isTrue (h ▸ rfl)
    | isFalse h => isFalse fun e => h (by injection e)
  | .object a, .object b =>
    match Value.decEqMembers a b with
    | isTrue h => isTrue (h ▸ rfl)
    | isFalse h => isFalse fun e => h (by injection e)
  | .null, .bool _ | .null, .number _ | .null, .string _ | .null, .array _ | .null, .object _
  | .bool _, .null | .bool _, .number _ | .bool _, .string _ | .bool _, .array _
  | .bool _, .object _ | .number _, .null | .number _, .bool _ | .number _, .string _
  | .number _, .array _ | .number _, .object _ | .string _, .null | .string _, .bool _
  | .string _, .number _ | .string _, .array _ | .string _, .object _ | .array _, .null
  | .array _, .bool _ | .array _, .number _ | .array _, .string _ | .array _, .object _
  | .object _, .null | .object _, .bool _ | .object _, .number _ | .object _, .string _
  | .object _, .array _ => isFalse (by simp)

/-- Decides whether two lists of documents are the same. -/
def Value.decEqItems : (a b : List Value) → Decidable (a = b)
  | [], [] => isTrue rfl
  | a :: as, b :: bs =>
    match Value.decEq a b, Value.decEqItems as bs with
    | isTrue h, isTrue t => isTrue (h ▸ t ▸ rfl)
    | isFalse h, _ => isFalse fun e => h (by injection e)
    | _, isFalse t => isFalse fun e => t (by injection e)
  | [], _ :: _ => isFalse (by simp)
  | _ :: _, [] => isFalse (by simp)

/-- Decides whether two lists of members are the same. -/
def Value.decEqMembers : (a b : List (String × Value)) → Decidable (a = b)
  | [], [] => isTrue rfl
  | (k, a) :: as, (l, b) :: bs =>
    match (inferInstance : Decidable (k = l)), Value.decEq a b, Value.decEqMembers as bs with
    | isTrue n, isTrue h, isTrue t => isTrue (n ▸ h ▸ t ▸ rfl)
    | isFalse n, _, _ => isFalse fun e => n (by injection e with e _; injection e)
    | _, isFalse h, _ => isFalse fun e => h (by injection e with e _; injection e)
    | _, _, isFalse t => isFalse fun e => t (by injection e)
  | [], _ :: _ => isFalse (by simp)
  | _ :: _, [] => isFalse (by simp)

end

instance : DecidableEq Value := Value.decEq

namespace Members

/-- The value of the first member with a name. In a normal form there is at most one. -/
def get? (name : String) : Members → Option Value
  | [] => none
  | (k, v) :: r => if k = name then some v else get? name r

/-- Puts a member at its place in sorted members, in place of one with its name. -/
def insert (name : String) (value : Value) : Members → Members
  | [] => [(name, value)]
  | (k, v) :: r =>
    if name < k then (name, value) :: (k, v) :: r
    else if name = k then (name, value) :: r
    else (k, v) :: insert name value r

/-- The members without those of a name. -/
def erase (name : String) (ms : Members) : Members := ms.filter fun m => m.1 ≠ name

/-- The names of the members, in order. -/
def names (ms : Members) : List String := ms.map Prod.fst

/-- Sorts members by name, a repeated name counting with its last value. -/
def sort (ms : Members) : Members := ms.foldl (fun acc m => insert m.1 m.2 acc) []

end Members

mutual

/-- The value that a document stands for: its normal form. -/
def Value.normalize : Value → Value
  | .array items => .array (Value.normalizeItems items)
  | .object members => .object (Members.sort (Value.normalizeMembers members))
  | v => v

/-- The normal forms of the items of an array. -/
def Value.normalizeItems : List Value → List Value
  | [] => []
  | v :: r => v.normalize :: Value.normalizeItems r

/-- The normal forms of the values of members, the members in their order. -/
def Value.normalizeMembers : List (String × Value) → List (String × Value)
  | [] => []
  | (k, v) :: r => (k, v.normalize) :: Value.normalizeMembers r

end

/-- The word for the kind of a document. -/
def Value.kind : Value → String
  | .null => "null"
  | .bool _ => "boolean"
  | .number _ => "number"
  | .string _ => "string"
  | .array _ => "array"
  | .object _ => "object"

/-- The text of a string. -/
def Value.asString? : Value → Option String
  | .string s => some s
  | _ => none

/-- The value of an integer that fits 64 bits with a sign. -/
def Value.asInt64? : Value → Option Int
  | .number (.whole n _) => if n < 0x8000000000000000 then some n else none
  | _ => none

/-- An object of the members that are present. -/
def Value.ofPresent (members : List (Option (String × Value))) : Value :=
  .object (members.filterMap id)

end DeviceRegistry.Json
