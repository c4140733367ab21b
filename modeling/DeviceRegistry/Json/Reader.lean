import DeviceRegistry.Json.Token

/-!
# `DeviceRegistry.Json.Reader`: arrays, objects and whole documents

The two loops of the format, `readItems` for arrays and `foldMembers` for objects, are parametric in
what reads an item or a member: `readValue` uses them for documents, the decoders of
`DeviceRegistry.Json.Decoder` for typed data. A document may be nested 127 levels deep. `skipValue`
passes over a value that nobody asks for: it is not decoded, so it may be nested deeper, hold bytes
that are no text, and numbers of any size.
-/

set_option autoImplicit false

namespace DeviceRegistry.Json

/-- How many levels of arrays and objects a document may have. -/
def greatestDepth : Nat := 127

/-! ### The end of an array or object -/

/-- Closes an array: the cursor behind the attempt, and what is wrong with it. -/
def endList (c : Cursor) : Cursor × Option Malformed :=
  let c := c.skipBlanks
  match c.peek? with
  | some ']' => (c.next, none)
  | some ',' =>
    let c := c.next.skipBlanks
    (c, some (if c.peek? = some ']' then .trailingComma else .trailingCharacters))
  | _ => (c, some (if c.atEnd then .endInList else .trailingCharacters))

/-- Closes an object: the cursor behind the attempt, and what is wrong with it. -/
def endObject (c : Cursor) : Cursor × Option Malformed :=
  let c := c.skipBlanks
  match c.peek? with
  | some '\x7d' => (c.next, none)
  | some ',' => (c, some .trailingComma)
  | _ => (c, some (if c.atEnd then .endInObject else .trailingCharacters))

/-- Closes what was opened before the content. A mismatch in the content is reported behind the
attempt to close, which itself then does not matter. -/
def closing {α : Type} (close : Cursor → Cursor × Option Malformed)
    (content : Except Failure (α × Cursor)) : Except Failure (α × Cursor) :=
  match content with
  | .ok (a, c) =>
    match close c with
    | (c, none) => .ok (a, c)
    | (c, some f) => failAhead c f
  | .error (.unplaced m c) => misfit (close c).1 m
  | .error e => .error e

/-! ### Loops -/

/-- Moves to the next item of an array and says whether there is one. -/
def nextItem (first : Bool) (c : Cursor) : Except Failure (Bool × Cursor) :=
  let c := c.skipBlanks
  if c.atEnd then failAhead c .endInList
  else if c.peek? = some ']' then .ok (false, c)
  else if first then .ok (true, c)
  else if c.peek? = some ',' then
    let c := c.next.skipBlanks
    if c.atEnd then failAhead c .endInValue
    else if c.peek? = some ']' then failAhead c .trailingComma
    else .ok (true, c)
  else failAhead c .expectedListCommaOrEnd

/-- Reads the items of an array, at most `fuel` of them. -/
def itemsFrom {α : Type} (item : Reader α) : (fuel : Nat) → (first : Bool) → Reader (List α)
  | 0, _, c => failAhead c .endInList
  | fuel + 1, first, c =>
    match nextItem first c with
    | .error e => .error e
    | .ok (false, c) => .ok ([], c)
    | .ok (true, c) =>
      match item c with
      | .error e => .error e
      | .ok (a, c) =>
        match itemsFrom item fuel false c with
        | .error e => .error e
        | .ok (as, c) => .ok (a :: as, c)

/-- Reads the items of an array behind its bracket. Every item but the first takes a comma, so what
is left of the text bounds their number. -/
def readItems {α : Type} (item : Reader α) : Reader (List α) := fun c =>
  itemsFrom item (c.rest.length + 1) true c

/-- Reads the name of a member at its quote. -/
def readName : Reader (Option String) := fun c =>
  match c.peek? with
  | some '"' =>
    match readString c.next with
    | .ok (name, c) => .ok (some name, c)
    | .error e => .error e
  | some '\x7d' => failAhead c .trailingComma
  | _ => failAhead c (if c.atEnd then .endInValue else .keyNotString)

/-- Moves to the next member of an object and reads its name, if there is one. -/
def nextName (first : Bool) : Reader (Option String) := fun c =>
  let c := c.skipBlanks
  if c.atEnd then failAhead c .endInObject
  else if c.peek? = some '\x7d' then .ok (none, c)
  else if first then readName c
  else if c.peek? = some ',' then readName c.next.skipBlanks
  else failAhead c .expectedObjectCommaOrEnd

/-- Reads the colon behind a name. -/
def readColon : Reader Unit := fun c =>
  let c := c.skipBlanks
  if c.peek? = some ':' then .ok ((), c.next)
  else failAhead c (if c.atEnd then .endInObject else .expectedColon)

/-- Reads the members of an object, at most `fuel` of them: `step` gets what was made of the members
before, and the name of a member, and reads on from behind the name. -/
def membersFrom {σ : Type} (step : σ → String → Reader σ) :
    (fuel : Nat) → (first : Bool) → σ → Reader σ
  | 0, _, _, c => failAhead c .endInObject
  | fuel + 1, first, s, c =>
    match nextName first c with
    | .error e => .error e
    | .ok (none, c) => .ok (s, c)
    | .ok (some name, c) =>
      match step s name c with
      | .error e => .error e
      | .ok (s, c) => membersFrom step fuel false s c

/-- Reads the members of an object behind its brace. -/
def foldMembers {σ : Type} (step : σ → String → Reader σ) (s : σ) : Reader σ := fun c =>
  membersFrom step (c.rest.length + 1) true s c

/-- Reads what stands behind the name of a member. -/
def behindColon {α : Type} (value : Reader α) : Reader α := fun c =>
  match readColon c with
  | .error e => .error e
  | .ok ((), c) => value c

/-! ### Documents -/

/-- Reads a word of the format behind its first letter. -/
def readLiteral (word : List Char) (v : Value) : Reader Value := fun c =>
  match readWord word c with
  | .ok ((), c) => .ok (v, c)
  | .error e => .error e

/-- Reads the number at a cursor. -/
def readAnyNumber : Reader Number := fun c =>
  if c.peek? = some '-' then readNumber true c.next else readNumber false c

/-- Whether a number starts with a character. -/
def startsNumber (x : Char) : Bool := x = '-' || ('0' ≤ x && x ≤ '9')

/-- Reads a value without items or members. -/
def readScalar : Reader Value := fun c =>
  match c.peek? with
  | some 'n' => readLiteral ['u', 'l', 'l'] .null c.next
  | some 't' => readLiteral ['r', 'u', 'e'] (.bool true) c.next
  | some 'f' => readLiteral ['a', 'l', 's', 'e'] (.bool false) c.next
  | some '"' =>
    match readString c.next with
    | .ok (s, c) => .ok (.string s, c)
    | .error e => .error e
  | some x =>
    if startsNumber x then
      match readAnyNumber c with
      | .ok (n, c) => .ok (.number n, c)
      | .error e => .error e
    else failAhead c .expectedValue
  | none => failAhead c (if c.atEnd then .endInValue else .expectedValue)

/-- Reads a document of at most `depth` levels. Members are kept sorted, a repeated name counts with
its last value. -/
def readValue : (depth : Nat) → Reader Value
  | 0, c =>
    let c := c.skipBlanks
    match c.peek? with
    | some '[' => failAhead c .tooDeep
    | some '\x7b' => failAhead c .tooDeep
    | _ => readScalar c
  | depth + 1, c =>
    let c := c.skipBlanks
    match c.peek? with
    | some '[' =>
      match closing endList (readItems (readValue depth) c.next) with
      | .ok (items, c) => .ok (.array items, c)
      | .error e => .error e
    | some '\x7b' =>
      let step (ms : Members) (name : String) : Reader Members := fun c =>
        match behindColon (readValue depth) c with
        | .ok (v, c) => .ok (Members.insert name v ms, c)
        | .error e => .error e
      match closing endObject (foldMembers step [] c.next) with
      | .ok (members, c) => .ok (.object members, c)
      | .error e => .error e
    | _ => readScalar c

/-! ### Values that nobody asks for -/

/-- Passes over digits. -/
def skipDigits (c : Cursor) : Cursor := c.drop (digitsOf c.rest).length

/-- Passes over digits of which there must be one. -/
def skipSomeDigits (c : Cursor) : Except Failure Cursor :=
  if startsWithDigit c.rest then .ok (skipDigits c) else failAhead c .invalidNumber

/-- Passes over an exponent, if there is one. -/
def skipExponent (c : Cursor) : Except Failure Cursor :=
  if c.peek? = some 'e' ∨ c.peek? = some 'E' then
    let c := c.next
    skipSomeDigits (if c.peek? = some '+' ∨ c.peek? = some '-' then c.next else c)
  else .ok c

/-- Passes over the digits of a number and what follows them. -/
def skipNumber (c : Cursor) : Except Failure Cursor := do
  let c ←
    if c.peek? = some '0' then
      if startsWithDigit c.next.rest then failAhead c.next .invalidNumber else .ok c.next
    else skipSomeDigits c
  let c ← if c.peek? = some '.' then skipSomeDigits c.next else .ok c
  skipExponent c

/-- Passes over a string behind its opening quote, at most `fuel` symbols. -/
def skipStringFrom : (fuel : Nat) → Cursor → Except Failure Cursor
  | 0, c => fail c .endInString
  | fuel + 1, c =>
    match c.rest with
    | [] => fail c .endInString
    | .stray _ :: _ => skipStringFrom fuel c.next
    | .char x :: _ =>
      if x = '"' then .ok c.next
      else if x = '\\' then
        let c := c.next
        match c.peek? with
        | some 'u' =>
          match readHexFour c.next with
          | .ok (_, c) => skipStringFrom fuel c
          | .error e => .error e
        | some y =>
          if (escaped? y).isSome then skipStringFrom fuel c.next else failAhead c .invalidEscape
        | none => if c.atEnd then fail c .endInString else failAhead c .invalidEscape
      else if x.toNat < 0x20 then fail c .controlCharacter
      else skipStringFrom fuel c.next

/-- Passes over a string behind its opening quote. -/
def skipString (c : Cursor) : Except Failure Cursor := skipStringFrom (c.rest.length + 1) c

/-- Moves to the next item of an array that is passed over, and says whether there is one. A comma
promises an item. -/
def nextSkippedItem (first : Bool) (c : Cursor) : Except Failure (Bool × Cursor) :=
  let c := c.skipBlanks
  if c.atEnd then failAhead c .endInList
  else if c.peek? = some ']' then .ok (false, c.next)
  else if first then .ok (true, c)
  else if c.peek? = some ',' then .ok (true, c.next)
  else failAhead c .expectedListCommaOrEnd

/-- Moves behind the colon of the next member of an object that is passed over, and says whether
there is one. -/
def nextSkippedMember (first : Bool) (c : Cursor) : Except Failure (Bool × Cursor) := do
  let c := c.skipBlanks
  if c.atEnd then failAhead c .endInObject
  else if c.peek? = some '\x7d' then return (false, c.next)
  else
    let c ←
      if first then .ok c
      else if c.peek? = some ',' then .ok c.next.skipBlanks
      else failAhead c .expectedObjectCommaOrEnd
    if c.peek? = some '"' then
      let c ← skipString c.next
      let ((), c) ← readColon c
      return (true, c)
    else failAhead c (if c.atEnd then .endInObject else .keyNotString)

/-- Passes over the rest of an array or object: `next` moves to an item or member, `value` passes
over it. -/
def skipEach (next : Bool → Cursor → Except Failure (Bool × Cursor))
    (value : Cursor → Except Failure Cursor) : (fuel : Nat) → (first : Bool) → Cursor →
    Except Failure Cursor
  | 0, _, c => failAhead c .endInValue
  | fuel + 1, first, c =>
    match next first c with
    | .error e => .error e
    | .ok (false, c) => .ok c
    | .ok (true, c) =>
      match value c with
      | .error e => .error e
      | .ok c => skipEach next value fuel false c

/-- Passes over a word behind its first letter. -/
def skipWord (word : List Char) (c : Cursor) : Except Failure Cursor :=
  match readWord word c with
  | .ok ((), c) => .ok c
  | .error e => .error e

/-- Passes over a value of at most `fuel` levels. -/
def skipLevels : (fuel : Nat) → Cursor → Except Failure Cursor
  | 0, c => failAhead c .endInValue
  | fuel + 1, c =>
    let c := c.skipBlanks
    match c.peek? with
    | some 'n' => skipWord ['u', 'l', 'l'] c.next
    | some 't' => skipWord ['r', 'u', 'e'] c.next
    | some 'f' => skipWord ['a', 'l', 's', 'e'] c.next
    | some '"' => skipString c.next
    | some '[' => skipEach nextSkippedItem (skipLevels fuel) (c.rest.length + 1) true c.next
    | some '\x7b' => skipEach nextSkippedMember (skipLevels fuel) (c.rest.length + 1) true c.next
    | some '-' => skipNumber c.next
    | some x => if '0' ≤ x ∧ x ≤ '9' then skipNumber c else failAhead c .expectedValue
    | none => failAhead c (if c.atEnd then .endInValue else .expectedValue)

/-- Passes over a value. Every level takes a bracket, so what is left of the text bounds them. -/
def skipValue (c : Cursor) : Except Failure Cursor := skipLevels (c.rest.length + 1) c

/-! ### Whole texts -/

/-- Reads all of a text. Only blanks may follow what is read. -/
def readAll {α : Type} (reader : Reader α) (bytes : List UInt8) : Except Error α :=
  match reader (.start (Text.Symbol.decode bytes)) with
  | .error (.placed e) => .error e
  | .error (.unplaced m _) => .error ⟨.mismatch m, none⟩
  | .ok (a, c) =>
    let c := c.skipBlanks
    if c.atEnd then .ok a else .error ⟨.malformed .trailingCharacters, some c.ahead⟩

/-- Reads bytes as a document. -/
def Value.ofBytes (bytes : List UInt8) : Except Error Value :=
  readAll (readValue greatestDepth) bytes

/-- Reads a text as a document. -/
def Value.parse (text : String) : Except Error Value := Value.ofBytes (Text.bytes text)

end DeviceRegistry.Json
