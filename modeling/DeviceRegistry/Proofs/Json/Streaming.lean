import DeviceRegistry.Proofs.Json.Decoder
import DeviceRegistry.Proofs.Json.Written

/-!
# `DeviceRegistry.Proofs.Json.Streaming`: decoding a text without reading it first

A decoder streams when it makes of a text what it makes of the document that is read from it. Main
statements:

* `streams_scalar`, `Streams.optional`, `Streams.list`, `streams_members`, `Streams.convert`: the
  decoders that stream, part by part.
* `Streams.ofBytes_eq_ok_iff`: a whole text.
-/

set_option autoImplicit false

namespace DeviceRegistry.Json

variable {α β : Type} {v : Value} {depth : Nat} {c c' : Cursor} {first : Bool}

/-! ### What starts a document -/

/-- Blanks in front of a document do not matter. A decoder that has skipped them to see the first
character may go on from there. -/
theorem readValue_skipBlanks : readValue depth c.skipBlanks = readValue depth c := by
  cases depth with
  | zero => simp only [readValue, Cursor.skipBlanks_skipBlanks]
  | succ depth => simp only [readValue, Cursor.skipBlanks_skipBlanks]

/-- The first character of a document says whether it is an array, an object, or neither. A decoder
can tell from it what is coming, before anything is read. -/
theorem readValue_cases (h : readValue depth c = .ok (v, c')) :
    (c.skipBlanks.peek? = some '[' ∧ ∃ items, v = .array items) ∨
    (c.skipBlanks.peek? = some '\x7b' ∧ ∃ ms, v = .object ms) ∨
    (c.skipBlanks.peek? ≠ some '[' ∧ c.skipBlanks.peek? ≠ some '\x7b' ∧ v.IsScalar ∧
      readScalar c.skipBlanks = .ok (v, c')) := by
  obtain ⟨doc, hread, rfl⟩ := readValue_eq_ok_iff.1 h
  have hscalar : c.skipBlanks.peek? ≠ some '[' ∧ c.skipBlanks.peek? ≠ some '\x7b' →
      readScalar c.skipBlanks = .ok (doc, c') →
      c.skipBlanks.peek? ≠ some '[' ∧ c.skipBlanks.peek? ≠ some '\x7b' ∧ doc.normalize.IsScalar ∧
        readScalar c.skipBlanks = .ok (doc.normalize, c') := by
    intro hopens hread
    have hdoc := readScalar_isScalar hread
    rw [hdoc.normalize]
    exact ⟨hopens.1, hopens.2, hdoc, hread⟩
  -- No list and no object is read when no depth is left.
  cases depth with
  | zero =>
    obtain ⟨hopens, hread⟩ := readDocument_zero_eq_ok_iff.1 hread
    exact .inr (.inr (hscalar hopens hread))
  | succ depth =>
    cases readDocument_succ_eq_ok_iff.1 hread with
    | scalar hopens hread => exact .inr (.inr (hscalar hopens hread))
    | array hopens _ _ => exact .inl ⟨hopens, _, Value.normalize_array _⟩
    | object hopens _ _ => exact .inr (.inl ⟨hopens, _, Members.normalize_object _⟩)

/-- Only `null` starts with its first letter. So with this letter in front a text is `null`, or it
is malformed. -/
theorem readScalar_null (h : c.peek? = some 'n') :
    readScalar c = (readWord ['u', 'l', 'l'] c.next).map fun ((), c) => (.null, c) := by
  unfold readScalar
  rw [h]
  dsimp only
  unfold readLiteral
  cases readWord ['u', 'l', 'l'] c.next with
  | error e => rfl
  | ok read => rfl

/-- What does not start with the letter of `null` is not read as `null`. Optional data is told from
its absence by this letter. -/
theorem readScalar_ne_null (h : c.peek? ≠ some 'n') : readScalar c ≠ .ok (.null, c') := by
  intro hread
  unfold readScalar at hread
  split at hread
  · exact h ‹_›
  · cases readLiteral_eq_ok hread
  · cases readLiteral_eq_ok hread
  · split at hread <;> cases hread
  · split at hread
    · split at hread <;> cases hread
    · cases hread
  · cases hread

namespace Decoder

variable {d : Decoder α}

/-- A decoder makes of a text what it makes of the document that is read from it. -/
def Streams (d : Decoder α) : Prop :=
  ∀ depth c a c', d.ofText depth c = .ok (a, c') ↔
    ∃ v, readValue depth c = .ok (v, c') ∧ d.ofValue v = .ok a

/-! ### Values without structure -/

/-- What is no match is an error, whatever follows it. So only the documents that match have to be
looked at for success. -/
theorem readMismatch_ne_ok {expected : String} {a : α} : readMismatch expected c ≠ .ok (a, c') := by
  unfold readMismatch
  split
  · simp [misfit]
  · simp [misfit]
  · split
    · simp [misfit]
    · simp

/-- A decoder of values without structure streams when it accepts no others. Arrays and objects are
refused where they open, so their content is never looked at. -/
theorem streams_scalar {expected : String} {pick : Value → Option α}
    (harray : ∀ items, pick (.array items) = none) (hobject : ∀ ms, pick (.object ms) = none) :
    (scalar expected pick).Streams := by
  intro depth c a c'
  -- The streaming reader looks at the first character to refuse what is no scalar. So a scalar is
  -- read by both in the same way.
  constructor
  · intro h
    unfold scalar at h
    dsimp only at h
    split at h
    · cases h
    · cases h
    · rename_i hnoArray hnoObject
      split at h
      · rename_i v c₁ hread
        split at h
        · rename_i b hpick
          cases h
          exact ⟨v, (readValue_scalar hnoArray hnoObject).trans hread, scalar_eq_ok.2 hpick⟩
        · cases h
      · cases h
  · rintro ⟨v, hread, hv⟩
    rw [scalar_eq_ok] at hv
    rcases readValue_cases hread with ⟨-, items, rfl⟩ | ⟨-, ms, rfl⟩ | ⟨hno, hno', -, hscalar⟩
    · rw [harray] at hv
      cases hv
    · rw [hobject] at hv
      cases hv
    · unfold scalar
      dsimp only
      split
      · exact absurd ‹_› hno
      · exact absurd ‹_› hno'
      · rw [hscalar]
        simp only [hv]

/-- Truth values are streamed. They are scalars, and the decoder takes no array and no object. -/
theorem streams_boolean : boolean.Streams := streams_scalar (fun _ => rfl) fun _ => rfl

/-- Strings are streamed, for the same reason as truth values. Most fields are strings or lists of
them. -/
theorem streams_string : string.Streams := streams_scalar (fun _ => rfl) fun _ => rfl

/-! ### Decoders of parts -/

/-- Turning what was decoded into something else changes nothing in this: the text is read to the
same place, and the value is the same. -/
theorem Streams.map (h : d.Streams) (f : α → β) : (d.map f).Streams := by
  intro depth c b c'
  rw [map_ofText_eq_ok_iff]
  constructor
  · rintro ⟨a, hread, rfl⟩
    obtain ⟨v, hv, ha⟩ := (h _ _ _ _).1 hread
    exact ⟨v, hv, except_map_eq_ok.2 ⟨a, ha, rfl⟩⟩
  · rintro ⟨v, hv, hb⟩
    obtain ⟨a, ha, rfl⟩ := except_map_eq_ok.1 hb
    exact ⟨a, (h _ _ _ _).2 ⟨v, hv, ha⟩, rfl⟩

/-- Nor does asking a further rule of it. Where the rule fails, both ways fail, and nothing is asked
of the errors here. -/
theorem Streams.convert (h : d.Streams) (f : α → Except Mismatch β) : (d.convert f).Streams := by
  intro depth c b c'
  rw [convert_ofText_eq_ok_iff]
  constructor
  · rintro ⟨a, hread, hb⟩
    obtain ⟨v, hv, ha⟩ := (h _ _ _ _).1 hread
    exact ⟨v, hv, except_bind_eq_ok.2 ⟨a, ha, hb⟩⟩
  · rintro ⟨v, hv, hb⟩
    obtain ⟨a, ha, hb⟩ := except_bind_eq_ok.1 hb
    exact ⟨a, (h _ _ _ _).2 ⟨v, hv, ha⟩, hb⟩

/-- Data that may be `null` is read as nothing where the letter of `null` stands. -/
theorem optional_ofText_null (hnull : c.skipBlanks.peek? = some 'n') :
    (optional d).ofText depth c =
      (readWord ['u', 'l', 'l'] c.skipBlanks.next).map fun ((), c) => (none, c) := by
  unfold optional
  simp only [hnull]

/-- Anywhere else the data itself is read. A text that does not start with the letter of `null` is
left to its decoder. -/
theorem optional_ofText (hnull : c.skipBlanks.peek? ≠ some 'n') :
    (optional d).ofText depth c =
      (d.ofText depth c.skipBlanks).map fun (a, c) => (some a, c) := by
  unfold optional
  dsimp only
  split
  · exact absurd ‹_› hnull
  · rfl

/-- Data that may be `null` is told apart by the first letter, which no other document starts with.
Any other text is left to the decoder of the data. -/
theorem Streams.optional (h : d.Streams) : (optional d).Streams := by
  intro depth c o c'
  by_cases hnull : c.skipBlanks.peek? = some 'n'
  · have hread : readValue depth c = readScalar c.skipBlanks :=
      readValue_scalar (by rw [hnull]; decide) (by rw [hnull]; decide)
    rw [optional_ofText_null hnull, hread, readScalar_null hnull]
    cases readWord ['u', 'l', 'l'] c.skipBlanks.next with
    | error e => simp
    | ok read =>
      simp only [except_map_ok, Except.ok.injEq, Prod.mk.injEq]
      constructor
      · rintro ⟨rfl, rfl⟩
        exact ⟨.null, ⟨rfl, rfl⟩, rfl⟩
      · rintro ⟨v, ⟨rfl, rfl⟩, ho⟩
        cases ho
        exact ⟨rfl, rfl⟩
  · rw [optional_ofText hnull, except_map_eq_ok]
    constructor
    · rintro ⟨⟨a, c₁⟩, hread, he⟩
      cases he
      obtain ⟨v, hv, ha⟩ := (h _ _ _ _).1 hread
      rw [readValue_skipBlanks] at hv
      refine ⟨v, hv, optional_eq_some.2 ⟨?_, ha⟩⟩
      -- What is read is not `null`, as it does not start like it.
      rintro rfl
      rcases readValue_cases hv with ⟨-, items, he⟩ | ⟨-, ms, he⟩ | ⟨-, -, -, hscalar⟩
      · cases he
      · cases he
      · exact readScalar_ne_null hnull hscalar
    · rintro ⟨v, hv, ho⟩
      have hv' := hv
      rw [← readValue_skipBlanks] at hv'
      cases o with
      | some a =>
        exact ⟨(a, c'), (h _ _ _ _).2 ⟨v, hv', (optional_eq_some.1 ho).2⟩, rfl⟩
      | none =>
        rw [optional_eq_none.1 ho] at hv
        rcases readValue_cases hv with ⟨-, items, he⟩ | ⟨-, ms, he⟩ | ⟨-, -, -, hscalar⟩
        · cases he
        · cases he
        · exact absurd hscalar (readScalar_ne_null hnull)

/-- Objects are read as they are, with every value in them. There is no decoder below, so reading
the text is reading the value. -/
theorem streams_members : members.Streams := by
  intro depth c ms c'
  simp only [members_eq_ok]
  unfold members
  -- Only what opens with a brace is read at all, and that is read as a value.
  constructor
  · intro h
    dsimp only at h
    split at h
    · obtain ⟨⟨v, c₁⟩, hread, h⟩ := except_bind_eq_ok.1 h
      rw [readValue_skipBlanks] at hread
      cases v with
      | object ms' =>
        cases h
        exact ⟨_, hread, rfl⟩
      | _ => cases h
    · exact absurd h readMismatch_ne_ok
  · rintro ⟨v, hread, rfl⟩
    rcases readValue_cases hread with ⟨-, items, he⟩ | ⟨hopens, -⟩ | ⟨-, -, hscalar, -⟩
    · cases he
    · simp only [hopens, readValue_skipBlanks, hread]
      rfl
    · cases hscalar

/-- The items of an array are decoded one by one, and each as its own document is. So an item that
cannot be decoded ends both ways, whatever follows it. -/
theorem Streams.itemsRead_iff (h : d.Streams) {as : List α} :
    ItemsRead (d.ofText depth) first c as c' ↔
      ∃ vs, ItemsRead (readValue depth) first c vs c' ∧ itemsOf d vs = .ok as := by
  -- Item by item, in either direction along what was read.
  constructor
  · intro hread
    induction hread with
    | nil hends => exact ⟨[], .nil hends, rfl⟩
    | cons hnext hitem _ ih =>
      obtain ⟨v, hv, ha⟩ := (h _ _ _ _).1 hitem
      obtain ⟨vs, hvs, has⟩ := ih
      refine ⟨v :: vs, .cons hnext hv hvs, ?_⟩
      rw [itemsOf, ha, except_bind_ok, has]
      rfl
  · rintro ⟨vs, hread, has⟩
    induction hread generalizing as with
    | nil hends =>
      cases has
      exact .nil hends
    | cons hnext hitem _ ih =>
      rw [itemsOf] at has
      obtain ⟨a, ha, hrest⟩ := except_bind_eq_ok.1 has
      obtain ⟨rest, htail, he⟩ := except_bind_eq_ok.1 hrest
      cases he
      exact .cons hnext ((h _ _ _ _).2 ⟨_, hitem, ha⟩) (ih htail)

/-- As many items are decoded as there are. None is left out and none is added, so a limit on the
number of items is one on the results. -/
theorem length_of_itemsOf {vs : List Value} {as : List α} (h : itemsOf d vs = .ok as) :
    vs.length = as.length := by
  induction vs generalizing as with
  | nil =>
    cases h
    rfl
  | cons v vs ih =>
    rw [itemsOf] at h
    obtain ⟨a, ha, h⟩ := except_bind_eq_ok.1 h
    obtain ⟨as, has, he⟩ := except_bind_eq_ok.1 h
    cases he
    rw [List.length_cons, List.length_cons, ih has]

/-- A list starts at its bracket, and its items are read from there. -/
theorem list_ofText (hopens : c.skipBlanks.peek? = some '[') :
    (list d).ofText (depth + 1) c =
      closing endList (readItems (d.ofText depth) c.skipBlanks.next) := by
  unfold list
  simp only [hopens]

/-- A list is read from nothing else, and not where it would be too deep. -/
theorem list_ofText_ne_ok {as : List α} (hopens : c.skipBlanks.peek? ≠ some '[' ∨ depth = 0) :
    (list d).ofText depth c ≠ .ok (as, c') := by
  unfold list
  dsimp only
  split
  · simp [failAhead]
  · rename_i hbracket
    rcases hopens with hno | hzero
    · exact absurd hbracket hno
    · cases hzero
  · exact readMismatch_ne_ok

/-- A list is read from an array: item by item from the text, or all of them from the value. Errors
come in the order of the items, and only success is compared. -/
theorem Streams.list (h : d.Streams) : (list d).Streams := by
  intro depth c as c'
  -- What opens with no bracket is no list for either of the two.
  by_cases hopens : c.skipBlanks.peek? = some '['
  · cases depth with
    | zero =>
      refine ⟨fun hread => absurd hread (list_ofText_ne_ok (.inr rfl)), ?_⟩
      rintro ⟨v, hread, -⟩
      simp [readValue, hopens, failAhead] at hread
    | succ depth =>
      rw [list_ofText hopens, readValue_array hopens, closing_eq_ok_iff]
      constructor
      · rintro ⟨c₁, hitems, hend⟩
        obtain ⟨hlength, hread⟩ := itemsFrom_eq_ok_iff.1 hitems
        obtain ⟨vs, hvs, has⟩ := h.itemsRead_iff.1 hread
        rw [← length_of_itemsOf has] at hlength
        have hclosed := closing_eq_ok_iff.2 ⟨c₁, itemsFrom_eq_ok_iff.2 ⟨hlength, hvs⟩, hend⟩
        exact ⟨.array vs, except_map_eq_ok.2 ⟨(vs, c'), hclosed, rfl⟩, has⟩
      · rintro ⟨v, hread, hv⟩
        obtain ⟨⟨vs, c₁⟩, hclosed, he⟩ := except_map_eq_ok.1 hread
        cases he
        obtain ⟨c₂, hitems, hend⟩ := closing_eq_ok_iff.1 hclosed
        obtain ⟨hlength, hvs⟩ := itemsFrom_eq_ok_iff.1 hitems
        rw [length_of_itemsOf hv] at hlength
        exact ⟨c₂, itemsFrom_eq_ok_iff.2 ⟨hlength, h.itemsRead_iff.2 ⟨vs, hvs, hv⟩⟩, hend⟩
  · refine ⟨fun hread => absurd hread (list_ofText_ne_ok (.inl hopens)), ?_⟩
    rintro ⟨v, hread, hv⟩
    obtain ⟨vs, rfl, -⟩ := list_eq_ok hv
    rcases readValue_cases hread with ⟨hopens', -⟩ | ⟨-, ms, he⟩ | ⟨-, -, hscalar, -⟩
    · exact absurd hopens' hopens
    · cases he
    · cases hscalar

/-! ### Whole texts -/

/-- A decoder that streams reads a text that can be read as a document. It ties what endpoints
decode to the values that bodies stand for. -/
theorem Streams.ofBytes_eq_ok_iff (h : d.Streams) {bytes : List UInt8} {a : α} :
    d.ofBytes bytes = .ok a ↔ ∃ v, Value.ofBytes bytes = .ok v ∧ d.ofValue v = .ok a := by
  unfold ofBytes Value.ofBytes
  rw [readAll_eq_ok_iff]
  constructor
  · rintro ⟨c, hread, hend⟩
    obtain ⟨v, hv, ha⟩ := (h _ _ _ _).1 hread
    exact ⟨v, readAll_eq_ok_iff.2 ⟨c, hv, hend⟩, ha⟩
  · rintro ⟨v, hv, ha⟩
    obtain ⟨c, hread, hend⟩ := readAll_eq_ok_iff.1 hv
    exact ⟨c, (h _ _ _ _).2 ⟨v, hread, ha⟩, hend⟩

end Decoder

end DeviceRegistry.Json
