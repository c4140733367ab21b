import DeviceRegistry.Json.Reader

/-!
# `DeviceRegistry.Json.Decoder`: typed data from documents

A `Decoder` reads one kind of data in two ways: from a document (`ofValue`) and directly from a text
(`ofText`), where faults have places. On a text that is a document both accept the same, but for
names of members that occur twice: a document has forgotten the first, a text is refused.

A `Record` is a table of fields. Its own fields are decoded where they stand; members that are not
among them are kept as documents until the end, and the shared fields are found among those. A
`PlainRecord` has own fields only, passes over other members, and may also be written as an array of
its fields in order.
-/

set_option autoImplicit false

namespace DeviceRegistry.Json

/-- A way to read data of one kind. -/
structure Decoder (α : Type) where
  ofValue : Value → Except Mismatch α
  ofText : (depth : Nat) → Reader α

namespace Decoder

variable {α β : Type}

/-- Turns what is read into something else. -/
def map (f : α → β) (d : Decoder α) : Decoder β where
  ofValue v := (d.ofValue v).map f
  ofText depth c := (d.ofText depth c).map fun (a, c) => (f a, c)

/-- Reads a whole text. -/
def ofBytes (d : Decoder α) (bytes : List UInt8) : Except Error α :=
  readAll (d.ofText greatestDepth) bytes

/-! ### Values without structure -/

/-- Reports what stands at a cursor as a mismatch. A scalar is read first, an array or object
not. -/
def readMismatch (expected : String) : Reader α := fun c =>
  match c.peek? with
  | some '[' => misfit c (.wrongType .sequence expected)
  | some '\x7b' => misfit c (.wrongType .map expected)
  | _ =>
    match readScalar c with
    | .ok (v, c) => misfit c (.wrongType v.found expected)
    | .error e => .error e

/-- Reads a value without items or members that `pick` accepts. -/
def scalar (expected : String) (pick : Value → Option α) : Decoder α where
  ofValue v :=
    match pick v with
    | some a => .ok a
    | none => .error (.wrongType v.found expected)
  ofText _ c :=
    let c := c.skipBlanks
    match c.peek? with
    | some '[' => misfit c (.wrongType .sequence expected)
    | some '\x7b' => misfit c (.wrongType .map expected)
    | _ =>
      match readScalar c with
      | .ok (v, c) =>
        match pick v with
        | some a => .ok (a, c)
        | none => misfit c (.wrongType v.found expected)
      | .error e => .error e

/-- Reads a truth value. -/
def boolean : Decoder Bool := scalar "a boolean" fun
  | .bool b => some b
  | _ => none

/-- Reads a string. -/
def string : Decoder String := scalar "a string" Value.asString?

/-- Reads a scalar that obeys a further rule, which is reported right behind it. -/
def refine (d : Decoder α) (f : α → Except Mismatch β) : Decoder β where
  ofValue v := do f (← d.ofValue v)
  ofText depth c := do
    let (a, c) ← d.ofText depth c
    match f a with
    | .ok b => .ok (b, c)
    | .error m => misfit c m

/-- Reads data that obeys a further rule, which is reported behind the array or object around it. -/
def convert (d : Decoder α) (f : α → Except Mismatch β) : Decoder β where
  ofValue v := do f (← d.ofValue v)
  ofText depth c := do
    let (a, c) ← d.ofText depth c
    match f a with
    | .ok b => .ok (b, c)
    | .error m => .error (.unplaced m c)

/-- Reads data that may be `null`. -/
def optional (d : Decoder α) : Decoder (Option α) where
  ofValue v :=
    match v with
    | .null => .ok none
    | v => (d.ofValue v).map some
  ofText depth c :=
    let c := c.skipBlanks
    match c.peek? with
    | some 'n' => (readWord ['u', 'l', 'l'] c.next).map fun ((), c) => (none, c)
    | _ => (d.ofText depth c).map fun (a, c) => (some a, c)

/-! ### Arrays, objects, choices -/

/-- Decodes the items of an array up to the first that fails. -/
def itemsOf (d : Decoder α) : List Value → Except Mismatch (List α)
  | [] => .ok []
  | v :: r => do
    let a ← d.ofValue v
    return a :: (← itemsOf d r)

/-- Reads an array. -/
def list (d : Decoder α) : Decoder (List α) where
  ofValue v :=
    match v with
    | .array items => itemsOf d items
    | v => .error (.wrongType v.found "a sequence")
  ofText depth c :=
    let c := c.skipBlanks
    match c.peek?, depth with
    | some '[', 0 => failAhead c .tooDeep
    | some '[', depth + 1 => closing endList (readItems (d.ofText depth) c.next)
    | _, _ => readMismatch "a sequence" c

/-- Reads an object without looking into it. -/
def members : Decoder Members where
  ofValue v :=
    match v with
    | .object ms => .ok ms
    | v => .error (.wrongType v.found "a map")
  ofText depth c := do
    let c := c.skipBlanks
    match c.peek? with
    | some '\x7b' =>
      match ← readValue depth c with
      | (.object ms, c) => .ok (ms, c)
      | (v, c) => misfit c (.wrongType v.found "a map")
    | _ => readMismatch "a map" c

/-- Finds the meaning of a name. -/
def nameOf (names : List (String × α)) (name : String) : Except Mismatch α :=
  match names.find? (·.1 = name) with
  | some (_, a) => .ok a
  | none => .error (.unknownVariant name (names.map Prod.fst))

/-- Finds the meaning of a name that was read just before a cursor. -/
def readNameOf (names : List (String × α)) (name : String) : Reader α := fun c =>
  match nameOf names name with
  | .ok a => .ok (a, c)
  | .error m => misfit c m

/-- Reads `null` where nothing else can stand. -/
def readNothing : Reader Unit := fun c =>
  let c := c.skipBlanks
  match c.peek? with
  | some 'n' => readWord ['u', 'l', 'l'] c.next
  | _ => readMismatch "unit" c

/-- Reads the rest of a choice that is written as an object, behind its brace. -/
def readChoiceMember (names : List (String × α)) : Reader α := fun c => do
  let c := c.skipBlanks
  match c.peek? with
  | some '"' =>
    let (name, c) ← readString c.next
    let (a, c) ← readNameOf names name c
    let ((), c) ← behindColon readNothing c
    let c := c.skipBlanks
    if c.peek? = some '\x7d' then .ok (a, c.next)
    else fail c (if c.atEnd then .endInObject else .expectedValue)
  | some '\x7d' => failAhead c .expectedValue
  | _ => if c.atEnd then fail c .endInObject else failAhead c .keyNotString

/-- Reads one of several names, as a string or as an object with that one name and `null`. -/
def choice (names : List (String × α)) : Decoder α where
  ofValue v :=
    match v with
    | .string name => nameOf names name
    | .object [(name, v)] => do
      let a ← nameOf names name
      match v with
      | .null => .ok a
      | v => .error (.wrongType v.found "unit")
    | .object _ => .error (.wrongValue .map "map with a single key")
    | v => .error (.wrongType v.found "string or map")
  ofText depth c := do
    let c := c.skipBlanks
    match c.peek?, depth with
    | some '"', _ =>
      let (name, c) ← readString c.next
      readNameOf names name c
    | some '\x7b', 0 => failAhead c .tooDeep
    | some '\x7b', _ + 1 => readChoiceMember names c.next
    | _, _ => failAhead c (if c.atEnd then .endInValue else .expectedValue)

end Decoder

/-! ### Records -/

/-- A field of a record: its name, and how its value changes the record. -/
structure Field (σ : Type) where
  name : String
  decoder : Decoder (σ → σ)

/-- A field that `set` puts into a record. -/
def Field.of {σ α : Type} (name : String) (d : Decoder α) (set : α → σ → σ) : Field σ :=
  ⟨name, d.map set⟩

/-- The field of a name. -/
def fieldOf? {σ : Type} (fields : List (Field σ)) (name : String) : Option (Field σ) :=
  fields.find? (·.name = name)

/-- A record in the making: the names of the fields that are set, and the members that belong to no
field, in their order. -/
structure Partial (σ : Type) where
  record : σ
  seen : List String
  others : Members

/-- A record without fields so far. -/
def Partial.start {σ : Type} (record : σ) : Partial σ := ⟨record, [], []⟩

/-- Sets a field. -/
def Partial.set {σ : Type} (p : Partial σ) (name : String) (change : σ → σ) : Partial σ :=
  { p with record := change p.record, seen := name :: p.seen }

/-- Keeps a member that belongs to no field. -/
def Partial.keep {σ : Type} (p : Partial σ) (name : String) (v : Value) : Partial σ :=
  { p with others := p.others ++ [(name, v)] }

/-- Takes a member into a record. -/
def Partial.take {σ : Type} (fields : List (Field σ)) (p : Partial σ) (name : String) (v : Value) :
    Except Mismatch (Partial σ) :=
  match fieldOf? fields name with
  | none => .ok (p.keep name v)
  | some f =>
    if name ∈ p.seen then .error (.duplicateField name)
    else (f.decoder.ofValue v).map (p.set name)

/-- Takes members into a record, in their order. -/
def Partial.takeAll {σ : Type} (fields : List (Field σ)) : Partial σ → Members →
    Except Mismatch (Partial σ)
  | p, [] => .ok p
  | p, (name, v) :: r => do takeAll fields (← p.take fields name v) r

/-- Reads a member of a record from a text, behind its name. What belongs to no field is left to
`other`. -/
def Partial.read {σ : Type} (fields : List (Field σ))
    (other : Partial σ → String → Reader (Partial σ))
    (depth : Nat) (p : Partial σ) (name : String) : Reader (Partial σ) := fun c =>
  match fieldOf? fields name with
  | none => other p name c
  | some f =>
    if name ∈ p.seen then .error (.unplaced (.duplicateField name) c)
    else (behindColon (f.decoder.ofText depth) c).map fun (change, c) => (p.set name change, c)

/-- A record with fields of its own and fields that it shares with other kinds. -/
structure Record (σ : Type) where
  expected : String
  blank : σ
  own : List (Field σ)
  shared : List (Field σ)

namespace Record

variable {σ : Type}

/-- Decodes the members of an object; what belongs to no field is left over. -/
def ofMembers (r : Record σ) (ms : Members) : Except Mismatch (σ × Members) := do
  let p ← Partial.takeAll r.own (.start r.blank) ms
  let p ← Partial.takeAll r.shared (.start p.record) p.others
  return (p.record, p.others)

/-- Reads a member that is no own field and keeps it. -/
def readOther (depth : Nat) (p : Partial σ) (name : String) : Reader (Partial σ) := fun c =>
  (behindColon (readValue depth) c).map fun (v, c) => (p.keep name v, c)

/-- Reads the members of an object behind its brace. -/
def readMembers (r : Record σ) (depth : Nat) : Reader σ := fun c => do
  let (p, c) ← foldMembers (Partial.read r.own (readOther depth) depth) (.start r.blank) c
  match Partial.takeAll r.shared (.start p.record) p.others with
  | .ok p => .ok (p.record, c)
  | .error m => .error (.unplaced m c)

/-- Reads a record. -/
def decoder (r : Record σ) : Decoder σ where
  ofValue v :=
    match v with
    | .object ms => (r.ofMembers ms).map Prod.fst
    | v => .error (.wrongType v.found r.expected)
  ofText depth c :=
    let c := c.skipBlanks
    match c.peek?, depth with
    | some '\x7b', 0 => failAhead c .tooDeep
    | some '\x7b', depth + 1 => closing endObject (r.readMembers depth c.next)
    | _, _ => Decoder.readMismatch r.expected c

end Record

/-- A record with own fields only. -/
structure PlainRecord (σ : Type) where
  expected : String
  blank : σ
  fields : List (Field σ)

namespace PlainRecord

variable {σ : Type}

/-- Reads a member that is no field and forgets it. -/
def readOther (p : Partial σ) (_ : String) : Reader (Partial σ) := fun c =>
  match behindColon (fun c => (skipValue c).map fun c => ((), c)) c with
  | .ok ((), c) => .ok (p, c)
  | .error e => .error e

/-- Reads the members of an object behind its brace. -/
def readMembers (r : PlainRecord σ) (depth : Nat) : Reader σ := fun c =>
  (foldMembers (Partial.read r.fields readOther depth) (.start r.blank) c).map
    fun (p, c) => (p.record, c)

/-- Decodes the items of an array as the fields in order. Fields may be missing, items not. -/
def ofItems (length : Nat) : List (Field σ) → σ → List Value → Except Mismatch σ
  | _, s, [] => .ok s
  | [], _, _ :: _ => .error (.wrongLength length "fewer elements in array")
  | f :: fields, s, v :: items => do
    let change ← f.decoder.ofValue v
    ofItems length fields (change s) items

/-- Reads the items of an array as the fields in order. -/
def readFields (depth : Nat) : List (Field σ) → (first : Bool) → σ → Reader σ
  | [], _, s, c => .ok (s, c)
  | f :: fields, first, s, c => do
    match ← nextItem first c with
    | (false, c) => .ok (s, c)
    | (true, c) =>
      let (change, c) ← f.decoder.ofText depth c
      readFields depth fields false (change s) c

/-- Reads a record. -/
def decoder (r : PlainRecord σ) : Decoder σ where
  ofValue v :=
    match v with
    | .object ms => (Partial.takeAll r.fields (.start r.blank) ms).map Partial.record
    | .array items => ofItems items.length r.fields r.blank items
    | v => .error (.wrongType v.found r.expected)
  ofText depth c :=
    let c := c.skipBlanks
    match c.peek?, depth with
    | some '\x7b', 0 => failAhead c .tooDeep
    | some '[', 0 => failAhead c .tooDeep
    | some '\x7b', depth + 1 => closing endObject (r.readMembers depth c.next)
    | some '[', depth + 1 => closing endList (readFields depth r.fields true r.blank c.next)
    | _, _ => Decoder.readMismatch r.expected c

end PlainRecord

end DeviceRegistry.Json
