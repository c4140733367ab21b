import DeviceRegistry.Proofs.Json.Loops

/-!
# `DeviceRegistry.Proofs.Json.Written`: documents as they are written

`readDocument` reads a document as it is written, with its members in their order and repeated names
repeated; `readValue` reads what such a document stands for. Main statements:

* `readValue_eq_map`: what is read is the normal form of what is written.
* `readDocument_of_levels`: how deep a document may be does not matter as long as it is deep enough.
-/

set_option autoImplicit false

namespace DeviceRegistry.Json

variable {α β σ τ : Type} {v : Value} {ms : Members} {depth : Nat} {c c' : Cursor}

/-- Reads a document of at most `depth` levels as it is written. -/
def readDocument : (depth : Nat) → Reader Value
  | 0, c =>
    let c := c.skipBlanks
    match c.peek? with
    | some '[' => failAhead c .tooDeep
    | some '\x7b' => failAhead c .tooDeep
    | _ => readScalar c
  | depth + 1, c =>
    let c := c.skipBlanks
    match c.peek? with
    | some '[' =>
      (closing endList (readItems (readDocument depth) c.next)).map
        fun (items, c) => (.array items, c)
    | some '\x7b' =>
      (closing endObject (foldMembers (keepMember (readDocument depth)) [] c.next)).map
        fun (ms, c) => (.object ms, c)
    | _ => readScalar c

/-! ### One level of a document -/

/-- A text with a bracket in front is read as an array, item by item. -/
theorem readDocument_array (h : c.skipBlanks.peek? = some '[') :
    readDocument (depth + 1) c =
      (closing endList (readItems (readDocument depth) c.skipBlanks.next)).map
        fun (items, c) => (.array items, c) := by
  rw [readDocument]
  simp only [h]

/-- A text with a brace in front is read as an object, with all members in their order. -/
theorem readDocument_object (h : c.skipBlanks.peek? = some '\x7b') :
    readDocument (depth + 1) c =
      (closing endObject
        (foldMembers (keepMember (readDocument depth)) [] c.skipBlanks.next)).map
          fun (ms, c) => (.object ms, c) := by
  rw [readDocument]
  simp only [h]

/-- Any other text is read as a scalar, and at any depth: it is what `readValue_scalar` says, of the
reader that keeps the members as they are written. -/
theorem readDocument_scalar (harray : c.skipBlanks.peek? ≠ some '[')
    (hobject : c.skipBlanks.peek? ≠ some '\x7b') :
    readDocument depth c = readScalar c.skipBlanks := by
  cases depth with
  | zero =>
    rw [readDocument]
    split
    · exact absurd ‹_› harray
    · exact absurd ‹_› hobject
    · rfl
  | succ depth =>
    rw [readDocument]
    split
    · exact absurd ‹_› harray
    · exact absurd ‹_› hobject
    · rfl

/-- Blanks in front of a document do not matter, here as with `readValue`. -/
theorem readDocument_skipBlanks : readDocument depth c.skipBlanks = readDocument depth c := by
  cases depth with
  | zero => simp only [readDocument, Cursor.skipBlanks_skipBlanks]
  | succ depth => simp only [readDocument, Cursor.skipBlanks_skipBlanks]

/-- What stands at a cursor: a value without structure, or an array or object of what `item`
reads. -/
inductive Written (item : Reader Value) (c : Cursor) : Value → Cursor → Prop
  | scalar {c' : Cursor} {v : Value}
    (opens : c.skipBlanks.peek? ≠ some '[' ∧ c.skipBlanks.peek? ≠ some '\x7b')
    (reads : readScalar c.skipBlanks = .ok (v, c')) : Written item c v c'
  | array {c' : Cursor} {items : List Value} (opens : c.skipBlanks.peek? = some '[')
    (length : items.length < c.skipBlanks.next.rest.length + 1)
    (reads : ItemsRead item true c.skipBlanks.next items c') : Written item c (.array items) c'.next
  | object {c' : Cursor} {ms : Members} (opens : c.skipBlanks.peek? = some '\x7b')
    (length : ms.length < c.skipBlanks.next.rest.length + 1)
    (reads : MembersRead item true c.skipBlanks.next ms c') : Written item c (.object ms) c'.next

/-- A reader of documents reads what stands at a cursor. From here on `Written` stands in for the
reader, so that its loops and their fuel need not be opened again. -/
theorem readDocument_succ_eq_ok_iff :
    readDocument (depth + 1) c = .ok (v, c') ↔ Written (readDocument depth) c v c' := by
  -- By the first character that is no blank: a list, an object or a scalar.
  constructor
  · intro h
    by_cases harray : c.skipBlanks.peek? = some '['
    · rw [readDocument_array harray, except_map_eq_ok] at h
      obtain ⟨⟨items, c₁⟩, hclosing, he⟩ := h
      cases he
      obtain ⟨c₂, hitems, hend⟩ := closing_eq_ok_iff.1 hclosing
      obtain ⟨hlength, hread⟩ := itemsFrom_eq_ok_iff.1 hitems
      rw [hread.endList] at hend
      cases hend
      exact .array harray hlength hread
    · by_cases hobject : c.skipBlanks.peek? = some '\x7b'
      · rw [readDocument_object hobject, except_map_eq_ok] at h
        obtain ⟨⟨ms, c₁⟩, hclosing, he⟩ := h
        cases he
        obtain ⟨c₂, hmembers, hend⟩ := closing_eq_ok_iff.1 hclosing
        obtain ⟨rest, rfl, hlength, hread⟩ := membersFrom_keepMember_eq_ok_iff.1 hmembers
        rw [hread.endObject] at hend
        cases hend
        exact .object hobject hlength hread
      · rw [readDocument_scalar harray hobject] at h
        exact .scalar ⟨harray, hobject⟩ h
  · intro h
    cases h with
    | scalar hopens hread => rw [readDocument_scalar hopens.1 hopens.2, hread]
    | array hopens hlength hread =>
      have hitems := itemsFrom_eq_ok_iff.2 ⟨hlength, hread⟩
      rw [readDocument_array hopens, readItems,
        closing_eq_ok_iff.2 ⟨_, hitems, hread.endList⟩]
      rfl
    | @object c₁ ms hopens hlength hread =>
      have hmembers : membersFrom (keepMember (readDocument depth)) _ true [] _ = .ok (ms, c₁) :=
        membersFrom_keepMember_eq_ok_iff.2 ⟨ms, rfl, hlength, hread⟩
      rw [readDocument_object hopens, foldMembers,
        closing_eq_ok_iff.2 ⟨_, hmembers, hread.endObject⟩]
      rfl

/-- A document without levels is a value without structure. With the lemma on one more level it
tells what a reader of documents does, level by level. -/
theorem readDocument_zero_eq_ok_iff : readDocument 0 c = .ok (v, c') ↔
    (c.skipBlanks.peek? ≠ some '[' ∧ c.skipBlanks.peek? ≠ some '\x7b') ∧
      readScalar c.skipBlanks = .ok (v, c') := by
  by_cases hopens : c.skipBlanks.peek? ≠ some '[' ∧ c.skipBlanks.peek? ≠ some '\x7b'
  · rw [readDocument_scalar hopens.1 hopens.2]
    exact (and_iff_right hopens).symm
  · refine ⟨fun h => ?_, fun h => absurd h.1 hopens⟩
    rw [readDocument] at h
    split at h
    · cases h
    · cases h
    · rename_i harray hobject
      exact absurd ⟨harray, hobject⟩ hopens

/-- A document stands where it is read, at some depth for its parts. -/
theorem exists_written (h : readDocument depth c = .ok (v, c')) :
    ∃ deep, Written (readDocument deep) c v c' := by
  cases depth with
  | zero =>
    obtain ⟨hopens, hread⟩ := readDocument_zero_eq_ok_iff.1 h
    exact ⟨0, .scalar hopens hread⟩
  | succ depth => exact ⟨depth, readDocument_succ_eq_ok_iff.1 h⟩

/-! ### Levels -/

/-- A document has at most as many levels as it may have. By induction on what it may have, of which
each bracket or brace takes one. -/
theorem levels_le_of_readDocument (h : readDocument depth c = .ok (v, c')) : v.levels ≤ depth := by
  induction depth generalizing c v c' with
  | zero =>
    obtain ⟨-, hread⟩ := readDocument_zero_eq_ok_iff.1 h
    exact Nat.le_of_eq (readScalar_isScalar hread).isNormal.2
  | succ depth ih =>
    cases readDocument_succ_eq_ok_iff.1 h with
    | scalar _ hread => exact (readScalar_isScalar hread).isNormal.2 ▸ Nat.zero_le _
    | array _ _ hread =>
      exact Value.levels_array_le_iff.2 (hread.forall fun c v c' => ih)
    | object _ _ hread =>
      exact Value.levels_object_le_iff.2 (hread.forall fun c v c' => ih)

/-- How deep a document may be does not matter as long as it is deep enough. The induction is on the
depth that it was read at. -/
theorem readDocument_of_levels {deep : Nat} (h : readDocument deep c = .ok (v, c'))
    (hlevels : v.levels ≤ depth) : readDocument depth c = .ok (v, c') := by
  induction deep generalizing depth c v c' with
  | zero =>
    obtain ⟨hopens, hread⟩ := readDocument_zero_eq_ok_iff.1 h
    rw [readDocument_scalar hopens.1 hopens.2, hread]
  | succ deep ih =>
    -- A list or an object has a level of its own, so some depth must be left, and what is in it
    -- needs one less.
    cases readDocument_succ_eq_ok_iff.1 h with
    | scalar hopens hread => rw [readDocument_scalar hopens.1 hopens.2, hread]
    | @array c' items hopens hlength hread =>
      obtain ⟨depth, rfl⟩ : ∃ n, depth = n + 1 := by
        rw [Value.levels] at hlevels
        exact Nat.exists_eq_add_one_of_ne_zero (by omega)
      have hitems := Value.levels_array_le_iff.1 hlevels
      have hshallow := hread.imp (f := id) fun v hv c c' hc => ih hc (hitems v hv)
      rw [List.map_id] at hshallow
      exact readDocument_succ_eq_ok_iff.2 (.array hopens hlength hshallow)
    | @object c' ms hopens hlength hread =>
      obtain ⟨depth, rfl⟩ : ∃ n, depth = n + 1 := by
        rw [Value.levels] at hlevels
        exact Nat.exists_eq_add_one_of_ne_zero (by omega)
      have hvalues := Value.levels_object_le_iff.1 hlevels
      have hshallow := hread.imp (f := id) fun m hm c c' hc => ih hc (hvalues m hm)
      rw [show ms.map (fun m => (m.1, id m.2)) = ms from List.map_id ms] at hshallow
      exact readDocument_succ_eq_ok_iff.2 (.object hopens hlength hshallow)

/-! ### What documents stand for -/

section

variable {first : Bool} {fuel : Nat}

/-- What is made of each item is made of all of them. The induction is on the fuel of the loop. -/
theorem itemsFrom_map {item : Reader α} {item' : Reader β} {f : α → β}
    (h : ∀ c, item' c = (item c).map fun (a, c) => (f a, c)) :
    itemsFrom item' fuel first c =
      (itemsFrom item fuel first c).map fun (as, c) => (as.map f, c) := by
  -- Both loops are run side by side and stop at the same place.
  induction fuel generalizing first c with
  | zero => rfl
  | succ fuel ih =>
    rw [itemsFrom, itemsFrom]
    cases nextItem first c with
    | error e => rfl
    | ok next =>
      obtain ⟨more, c₁⟩ := next
      cases more with
      | false => rfl
      | true =>
        dsimp only
        rw [h]
        cases item c₁ with
        | error e => rfl
        | ok read =>
          dsimp only [Except.map]
          rw [ih]
          cases itemsFrom item fuel false read.2 <;> rfl

/-- What is made of the members before and after each one is made of all of them, in the same
way. -/
theorem membersFrom_map {step : σ → String → Reader σ} {step' : τ → String → Reader τ} {f : σ → τ}
    (h : ∀ s name c, step' (f s) name c = (step s name c).map fun (s, c) => (f s, c)) (s : σ) :
    membersFrom step' fuel first (f s) c =
      (membersFrom step fuel first s c).map fun (s, c) => (f s, c) := by
  -- Both loops are run side by side, from states that go with one another.
  induction fuel generalizing first c s with
  | zero => rfl
  | succ fuel ih =>
    rw [membersFrom, membersFrom]
    cases nextName first c with
    | error e => rfl
    | ok next =>
      obtain ⟨name, c₁⟩ := next
      cases name with
      | none => rfl
      | some name =>
        dsimp only
        rw [h]
        cases step s name c₁ with
        | error e => rfl
        | ok read => exact ih read.1

/-- What is made of the content is made of it whether it is closed or not. -/
theorem closing_map {close : Cursor → Cursor × Option Malformed}
    {content : Except Failure (α × Cursor)} {f : α → β} :
    closing close (content.map fun (a, c) => (f a, c)) =
      (closing close content).map fun (a, c) => (f a, c) := by
  cases content with
  | error e => cases e <;> rfl
  | ok read =>
    unfold closing
    dsimp only [Except.map]
    split <;> rfl

end

/-- A member that is put behind others is put among them when they are sorted. Reading sorts as it
goes, and this is why it gives the same. -/
theorem normalForm_concat {name : String} :
    Members.normalForm (ms ++ [(name, v)]) = ms.normalForm.insert name v.normalize := by
  rw [Members.normalForm, Members.normalForm, Value.normalizeMembers_eq_map,
    Value.normalizeMembers_eq_map, List.map_append, Members.sort, Members.sort, List.foldl_append]
  rfl

/-- A value without structure stands for itself. Normalizing puts members in order, and there are
none. -/
theorem Value.IsScalar.normalize (h : v.IsScalar) : v.normalize = v :=
  Value.normalize_of_isNormal v h.isNormal.1

/-- What is read is the normal form of what is written, also in its errors and where they are found.
The induction is on the depth. -/
theorem readValue_eq_map :
    readValue depth c = (readDocument depth c).map fun (v, c) => (v.normalize, c) := by
  have hscalar : ∀ {c}, (readScalar c) = (readScalar c).map fun (v, c) => (v.normalize, c) := by
    intro c
    cases hread : readScalar c with
    | error e => rfl
    | ok read =>
      dsimp only [Except.map]
      rw [(readScalar_isScalar hread).normalize]
  induction depth generalizing c with
  | zero =>
    by_cases harray : c.skipBlanks.peek? = some '['
    · simp only [readValue, readDocument, harray]
      rfl
    · by_cases hobject : c.skipBlanks.peek? = some '\x7b'
      · simp only [readValue, readDocument, hobject]
        rfl
      · rw [readValue_scalar harray hobject, readDocument_scalar harray hobject]
        exact hscalar
  | succ depth ih =>
    by_cases harray : c.skipBlanks.peek? = some '['
    · rw [readValue_array harray, readDocument_array harray, readItems, readItems,
        itemsFrom_map (f := Value.normalize) fun c => ih, closing_map]
      cases closing endList (itemsFrom (readDocument depth) _ true c.skipBlanks.next) with
      | error e => rfl
      | ok read =>
        dsimp only [Except.map]
        rw [Value.normalize_array]
    · by_cases hobject : c.skipBlanks.peek? = some '\x7b'
      -- A member is put among the sorted ones as it is put behind the others.
      · have hmember : ∀ (ms : Members) name c, readMember depth ms.normalForm name c =
            (keepMember (readDocument depth) ms name c).map fun (ms, c) =>
              (Members.normalForm ms, c) := by
          intro ms name c
          unfold readMember keepMember behindColon
          cases readColon c with
          | error e => rfl
          | ok behind =>
            dsimp only
            rw [ih]
            cases readDocument depth behind.2 with
            | error e => rfl
            | ok read =>
              dsimp only [Except.map]
              rw [normalForm_concat]
        have hmembers : ∀ fuel, membersFrom (readMember depth) fuel true [] c.skipBlanks.next =
            (membersFrom (keepMember (readDocument depth)) fuel true [] c.skipBlanks.next).map
              fun (ms, c) => (Members.normalForm ms, c) := fun fuel => membersFrom_map hmember []
        rw [readValue_object hobject, readDocument_object hobject, foldMembers, foldMembers,
          hmembers, closing_map]
        cases closing endObject (membersFrom (keepMember (readDocument depth)) _ true []
            c.skipBlanks.next) with
        | error e => rfl
        | ok read =>
          dsimp only [Except.map]
          rw [Members.normalize_object]
      · rw [readValue_scalar harray hobject, readDocument_scalar harray hobject]
        exact hscalar

/-- What is read stands for something that is written, and ends at the same place. -/
theorem readValue_eq_ok_iff : readValue depth c = .ok (v, c') ↔
    ∃ doc, readDocument depth c = .ok (doc, c') ∧ doc.normalize = v := by
  rw [readValue_eq_map, except_map_eq_ok]
  constructor
  · rintro ⟨⟨doc, c₁⟩, hread, he⟩
    cases he
    exact ⟨doc, hread, rfl⟩
  · rintro ⟨doc, hread, rfl⟩
    exact ⟨(doc, c'), hread, rfl⟩

end DeviceRegistry.Json
