import DeviceRegistry.Json.Reader
import DeviceRegistry.Proofs.Json.Normal
import DeviceRegistry.Proofs.Steps

/-!
# `DeviceRegistry.Proofs.Json.Reader`: what is read from a text

Whatever a text holds, a document that is read from it is in normal form and not nested deeper than
the reader allows. Main statements:

* `itemsFrom_forall`, `membersFrom_invariant`: what the two loops of the format keep.
* `readValue_isNormal`: a document of a depth, by induction on the depth.
* `readAll_eq_ok_iff`, `ofBytes_isNormal`: whole texts.
-/

set_option autoImplicit false

namespace DeviceRegistry.Json

variable {α σ : Type} {v : Value} {ms : Members} {depth : Nat} {c c' : Cursor}

/-! ### Levels -/

mutual

/-- How many levels of arrays and objects a document has. -/
def Value.levels : Value → Nat
  | .array items => Value.itemLevels items + 1
  | .object members => Value.memberLevels members + 1
  | _ => 0

/-- How many levels the deepest item of an array has. -/
def Value.itemLevels : List Value → Nat
  | [] => 0
  | v :: r => max v.levels (Value.itemLevels r)

/-- How many levels the deepest value of an object has. -/
def Value.memberLevels : List (String × Value) → Nat
  | [] => 0
  | (_, v) :: r => max v.levels (Value.memberLevels r)

end

namespace Value

/-- Items have as many levels as the deepest of them. The definition takes the maximum, and this
states the bound for each. -/
theorem itemLevels_le_iff {items : List Value} :
    itemLevels items ≤ depth ↔ ∀ v ∈ items, v.levels ≤ depth := by
  induction items with
  | nil => simp [itemLevels]
  | cons v items ih => rw [itemLevels, Nat.max_le, ih, List.forall_mem_cons]

/-- Members have as many levels as the deepest of their values. -/
theorem memberLevels_le_iff : memberLevels ms ≤ depth ↔ ∀ m ∈ ms, m.2.levels ≤ depth := by
  induction ms with
  | nil => simp [memberLevels]
  | cons m ms ih => rw [memberLevels, Nat.max_le, ih, List.forall_mem_cons]

/-- An array is one level deeper than its items. So reading it with one level more needs the items
to be within the limit. -/
theorem levels_array_le_iff {items : List Value} :
    (array items).levels ≤ depth + 1 ↔ ∀ v ∈ items, v.levels ≤ depth := by
  rw [levels, Nat.add_le_add_iff_right, itemLevels_le_iff]

/-- An object is one level deeper than its values. Names have no levels, so only the values count.
-/
theorem levels_object_le_iff :
    (object ms).levels ≤ depth + 1 ↔ ∀ m ∈ ms, m.2.levels ≤ depth := by
  rw [levels, Nat.add_le_add_iff_right, memberLevels_le_iff]

end Value

mutual

/-- Normalizing makes no document deeper. It may make one less deep, when the deepest value is
hidden by a later one. -/
theorem Value.levels_normalize_le : ∀ v : Value, v.normalize.levels ≤ v.levels
  | .array items => by
    rw [Value.normalize, Value.levels, Value.levels]
    exact Nat.add_le_add_right (Value.itemLevels_normalizeItems_le items) 1
  | .object ms => by
    rw [Value.normalize, Value.levels, Value.levels, Nat.add_le_add_iff_right,
      Value.memberLevels_le_iff]
    intro m hm
    exact Value.memberLevels_le_iff.1 (Value.memberLevels_normalizeMembers_le ms) m
      (Members.mem_of_mem_sort hm)
  | .null | .bool _ | .number _ | .string _ => Nat.le_refl _

/-- Nor does it make items deeper, each of which is normalized on its own. -/
theorem Value.itemLevels_normalizeItems_le :
    ∀ items : List Value, Value.itemLevels (Value.normalizeItems items) ≤ Value.itemLevels items
  | [] => Nat.le_refl _
  | v :: r => by
    have hv := Value.levels_normalize_le v
    have hr := Value.itemLevels_normalizeItems_le r
    rw [Value.normalizeItems, Value.itemLevels, Value.itemLevels]
    omega

/-- Nor does it make the values of members deeper. The induction is the one on items, with a name in
front of each. -/
theorem Value.memberLevels_normalizeMembers_le : ∀ ms : List (String × Value),
    Value.memberLevels (Value.normalizeMembers ms) ≤ Value.memberLevels ms
  | [] => Nat.le_refl _
  | (_, v) :: r => by
    have hv := Value.levels_normalize_le v
    have hr := Value.memberLevels_normalizeMembers_le r
    rw [Value.normalizeMembers, Value.memberLevels, Value.memberLevels]
    omega

end

/-- Putting a normal form among members keeps the normal form: the members stay in order, and all
values are in normal form. -/
theorem Members.IsNormal.insert {name : String} (h : ms.IsNormal) (hv : v.IsNormal) :
    (ms.insert name v).IsNormal := by
  obtain ⟨hsorted, hvalues⟩ := isNormal_iff.1 h
  refine isNormal_iff.2 ⟨sorted_insert hsorted, fun m hm => ?_⟩
  rcases mem_insert hm with rfl | hm
  · exact hv
  · exact hvalues m hm

/-! ### Loops -/

/-- What every item that is read satisfies, all items of an array satisfy. The induction is on the
fuel of the loop. -/
theorem itemsFrom_forall {item : Reader α} {P : α → Prop} {fuel : Nat} {first : Bool} {as : List α}
    (hitem : ∀ c a c', item c = .ok (a, c') → P a)
    (h : itemsFrom item fuel first c = .ok (as, c')) : ∀ a ∈ as, P a := by
  -- Along the loop: each item that it reads satisfies the predicate, and so do those that it goes
  -- on with.
  induction fuel generalizing first c as with
  | zero => cases h
  | succ fuel ih =>
    rw [itemsFrom] at h
    split at h
    · cases h
    · cases h
      intro a ha
      cases ha
    · split at h
      · cases h
      · rename_i a c₁ hfirst
        split at h
        · cases h
        · rename_i rest c₂ hrest
          cases h
          intro b hb
          rcases List.mem_cons.1 hb with rfl | hb
          · exact hitem _ _ _ hfirst
          · exact ih hrest b hb

/-- What is made of the members of an object satisfies what every member keeps. It is how an
invariant of records is shown to hold of what is read. -/
theorem membersFrom_invariant {step : σ → String → Reader σ} {P : σ → Prop} {fuel : Nat}
    {first : Bool} {s s' : σ}
    (hstep : ∀ s name c s' c', P s → step s name c = .ok (s', c') → P s') (hs : P s)
    (h : membersFrom step fuel first s c = .ok (s', c')) : P s' := by
  induction fuel generalizing first s c with
  | zero => cases h
  | succ fuel ih =>
    rw [membersFrom] at h
    split at h
    · cases h
    · cases h
      exact hs
    · split at h
      · cases h
      · rename_i s₁ c₁ hmember
        exact ih (hstep _ _ _ _ _ hs hmember) h

/-- What was closed is the content. An error of the closing bracket comes after what is inside was
read, so a success has read all of it. -/
theorem exists_of_closing {close : Cursor → Cursor × Option Malformed}
    {content : Except Failure (α × Cursor)} {a : α} (h : closing close content = .ok (a, c)) :
    ∃ c₁, content = .ok (a, c₁) := by
  unfold closing at h
  split at h
  · split at h
    · cases h
      exact ⟨_, rfl⟩
    · cases h
  · cases h
  · cases h

/-- What stands behind a name is read behind its colon. Without a colon there is no value to be
read. -/
theorem behindColon_eq_ok {value : Reader α} {a : α} (h : behindColon value c = .ok (a, c')) :
    ∃ c₁, readColon c = .ok ((), c₁) ∧ value c₁ = .ok (a, c') := by
  unfold behindColon at h
  split at h
  · cases h
  · rename_i c₁ hcolon
    exact ⟨c₁, hcolon, h⟩

/-! ### Documents -/

/-- A value without items or members. -/
def Value.IsScalar : Value → Prop
  | .array _ | .object _ => False
  | _ => True

/-- A scalar is in normal form and has no levels. It is the base of both inductions on values. -/
theorem Value.IsScalar.isNormal (h : v.IsScalar) : v.IsNormal ∧ v.levels = 0 := by
  cases v with
  | array _ | object _ => cases h
  | null | bool _ | number _ | string _ => exact ⟨trivial, rfl⟩

/-- A word is read as the value that it stands for. -/
theorem readLiteral_eq_ok {word : List Char} {w : Value}
    (h : readLiteral word w c = .ok (v, c')) : v = w := by
  unfold readLiteral at h
  split at h
  · cases h
    rfl
  · cases h

/-- What is read without a bracket or brace is a scalar. So a decoder for arrays or objects never
gets one from such a text. -/
theorem readScalar_isScalar (h : readScalar c = .ok (v, c')) : v.IsScalar := by
  unfold readScalar at h
  -- Three words, a string and a number are scalars, and anything else is an error.
  split at h
  · rw [readLiteral_eq_ok h]
    trivial
  · rw [readLiteral_eq_ok h]
    trivial
  · rw [readLiteral_eq_ok h]
    trivial
  · split at h
    · cases h
      trivial
    · cases h
  · split at h
    · split at h
      · cases h
        trivial
      · cases h
    · cases h
  · cases h

/-- Reads a member behind its name and puts it among others. -/
def readMember (depth : Nat) (ms : Members) (name : String) : Reader Members := fun c =>
  match behindColon (readValue depth) c with
  | .ok (v, c) => .ok (ms.insert name v, c)
  | .error e => .error e

/-- Reading a member puts the value behind its colon among the others. Under a name that is there
already it replaces the value, so the last one counts. -/
theorem readMember_eq_ok {name : String} {ms' : Members}
    (h : readMember depth ms name c = .ok (ms', c')) :
    ∃ v c₁, readValue depth c₁ = .ok (v, c') ∧ ms' = ms.insert name v := by
  unfold readMember at h
  split at h
  · rename_i v c₁ hv
    cases h
    obtain ⟨c₂, -, hread⟩ := behindColon_eq_ok hv
    exact ⟨v, c₂, hread, rfl⟩
  · cases h

/-- A text with a bracket in front is read as an array, whose items may be one level less deep. -/
theorem readValue_array (h : c.skipBlanks.peek? = some '[') :
    readValue (depth + 1) c =
      (closing endList (readItems (readValue depth) c.skipBlanks.next)).map
        fun (items, c) => (.array items, c) := by
  rw [readValue]
  simp only [h]
  cases closing endList (readItems (readValue depth) c.skipBlanks.next) <;> rfl

/-- A text with a brace in front is read as an object, whose values may be one level less deep.
Where no level is left, the object itself is refused. -/
theorem readValue_object (h : c.skipBlanks.peek? = some '\x7b') :
    readValue (depth + 1) c =
      (closing endObject (foldMembers (readMember depth) [] c.skipBlanks.next)).map
        fun (ms, c) => (.object ms, c) := by
  rw [readValue]
  simp only [h]
  split
  · rename_i ms c' hread
    have hclosing : closing endObject (foldMembers (readMember depth) [] c.skipBlanks.next) =
        .ok (ms, c') := hread
    rw [hclosing]
    rfl
  · rename_i e hread
    have hclosing : closing endObject (foldMembers (readMember depth) [] c.skipBlanks.next) =
        .error e := hread
    rw [hclosing]
    rfl

/-- Any other text is read as a scalar, and at any depth, since only brackets and braces go a level
down. -/
theorem readValue_scalar (harray : c.skipBlanks.peek? ≠ some '[')
    (hobject : c.skipBlanks.peek? ≠ some '\x7b') :
    readValue depth c = readScalar c.skipBlanks := by
  -- The depth matters for brackets only.
  cases depth with
  | zero =>
    rw [readValue]
    split
    · rename_i hopens
      exact absurd hopens harray
    · rename_i hopens
      exact absurd hopens hobject
    · rfl
  | succ depth =>
    rw [readValue]
    split
    · rename_i hopens
      exact absurd hopens harray
    · rename_i hopens
      exact absurd hopens hobject
    · rfl

/-- A document that is read is in normal form and has at most as many levels as it may. The
induction is on the levels; members are put in order as they are read. -/
theorem readValue_isNormal (h : readValue depth c = .ok (v, c')) :
    v.IsNormal ∧ v.levels ≤ depth := by
  induction depth generalizing c v c' with
  | zero =>
    by_cases hopens : c.skipBlanks.peek? = some '[' ∨ c.skipBlanks.peek? = some '\x7b'
    · rcases hopens with harray | hobject
      · simp [readValue, harray, failAhead] at h
      · simp [readValue, hobject, failAhead] at h
    · rw [not_or] at hopens
      rw [readValue_scalar hopens.1 hopens.2] at h
      obtain ⟨hnormal, hlevels⟩ := (readScalar_isScalar h).isNormal
      exact ⟨hnormal, Nat.le_of_eq hlevels⟩
  | succ depth ih =>
    by_cases harray : c.skipBlanks.peek? = some '['
    -- Every item of an array was read with one level less.
    · rw [readValue_array harray, except_map_eq_ok] at h
      obtain ⟨⟨items, c₁⟩, hclosing, h⟩ := h
      cases h
      obtain ⟨c₂, hitems⟩ := exists_of_closing hclosing
      have hall := itemsFrom_forall (fun c v c' => ih) hitems
      exact ⟨Value.isNormal_array.2 fun v hv => (hall v hv).1,
        Value.levels_array_le_iff.2 fun v hv => (hall v hv).2⟩
    · by_cases hobject : c.skipBlanks.peek? = some '\x7b'
      -- Every member that is put in keeps the members a normal form.
      · rw [readValue_object hobject, except_map_eq_ok] at h
        obtain ⟨⟨members, c₁⟩, hclosing, h⟩ := h
        cases h
        obtain ⟨c₂, hmembers⟩ := exists_of_closing hclosing
        have hkeeps : ∀ ms name c ms' c',
            (ms.IsNormal ∧ ∀ m ∈ ms, m.2.levels ≤ depth) →
            readMember depth ms name c = .ok (ms', c') →
            ms'.IsNormal ∧ ∀ m ∈ ms', m.2.levels ≤ depth := by
          rintro ms name c ms' c' ⟨hnormal, hlevels⟩ hstep
          obtain ⟨w, c₃, hw, rfl⟩ := readMember_eq_ok hstep
          refine ⟨hnormal.insert (ih hw).1, fun m hm => ?_⟩
          rcases Members.mem_insert hm with rfl | hm
          · exact (ih hw).2
          · exact hlevels m hm
        obtain ⟨hnormal, hlevels⟩ :=
          membersFrom_invariant hkeeps ⟨Members.isNormal_nil, by simp⟩ hmembers
        exact ⟨hnormal, Value.levels_object_le_iff.2 hlevels⟩
      · rw [readValue_scalar harray hobject] at h
        obtain ⟨hnormal, hlevels⟩ := (readScalar_isScalar h).isNormal
        exact ⟨hnormal, hlevels ▸ Nat.zero_le _⟩

/-! ### Whole texts -/

/-- A whole text is read when only blanks follow what is read from its start. -/
theorem readAll_eq_ok_iff {reader : Reader α} {bytes : List UInt8} {a : α} :
    readAll reader bytes = .ok a ↔
      ∃ c, reader (.start (Text.Symbol.decode bytes)) = .ok (a, c) ∧
        c.skipBlanks.atEnd = true := by
  unfold readAll
  cases reader (.start (Text.Symbol.decode bytes)) with
  | error e => cases e <;> simp
  | ok read =>
    obtain ⟨b, c⟩ := read
    by_cases hend : c.skipBlanks.atEnd = true
    · simp only [hend, if_true, Except.ok.injEq, Prod.mk.injEq]
      exact ⟨fun h => ⟨c, ⟨h, rfl⟩, hend⟩, fun ⟨_, h, _⟩ => h.1⟩
    · simp [hend]

/-- A document that is read from bytes is in normal form and has a bounded number of levels. -/
theorem ofBytes_isNormal {bytes : List UInt8} (h : Value.ofBytes bytes = .ok v) :
    v.IsNormal ∧ v.levels ≤ greatestDepth := by
  obtain ⟨c, hread, -⟩ := readAll_eq_ok_iff.1 h
  exact readValue_isNormal hread

end DeviceRegistry.Json
