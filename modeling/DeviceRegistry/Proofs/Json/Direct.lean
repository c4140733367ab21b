import DeviceRegistry.Proofs.Json.Repeated

/-!
# `DeviceRegistry.Proofs.Json.Direct`: texts that are decoded without their values

A text is decoded directly or by way of the value that it stands for. For a record both come to the
same, but for names of fields that are repeated. Main statements:

* `Decoder.streamsAt_choice`, `Decoder.Streams.streamsAt`: decoders of single documents.
* `Record.decoder_ofText_eq_ok_iff`: a record is made of the members that stand in a text.
* `Decoder.AgreesOn`, `Record.agreesOn`, `PlainRecord.agreesOn`: texts against values.

## How the two ways are compared

Between the text and the value stands the document that is read from the text: it has all members in
their order, and the value is its normal form. Decoding the text takes the members of the document
one by one (`Partial.membersFrom_keep_iff`), where a field must be streamed: its text gives what its
own document gives. Decoding the value takes the members of the normal form. Both take nothing but
the members of the fields (`Record.ofMembers_filter`), and when none of those is repeated they are
the same up to their order, which does not matter (`Record.Describes.ofMembers_sort_iff`). When one
is repeated the first way fails (`Record.ofMembers_once`).

A choice is only streamed at documents that are no objects. In a text the object has one member, and
whatever stands behind it is an error. In a value the last member of a name is left, and the others
are gone.
-/

set_option autoImplicit false

namespace DeviceRegistry.Json

variable {α β σ : Type} {name : String} {v : Value} {ms : Members} {depth : Nat}
  {c c₁ c' : Cursor} {first : Bool}

/-! ### Decoders of one document -/

/-- A scalar that starts with a quote is a string. Only a string does. -/
theorem readScalar_quote (h : c.peek? = some '"') :
    readScalar c = (readString c.next).map fun (s, c) => (.string s, c) := by
  unfold readScalar
  rw [h]
  dsimp only
  cases readString c.next <;> rfl

/-- What does not start with a quote is not read as a string. A choice looks at the first character,
and this says that looking is enough. -/
theorem readScalar_ne_string {s : String} (h : c.peek? ≠ some '"') :
    readScalar c ≠ .ok (.string s, c') := by
  intro hread
  unfold readScalar at hread
  split at hread
  · cases readLiteral_eq_ok hread
  · cases readLiteral_eq_ok hread
  · cases readLiteral_eq_ok hread
  · exact h ‹_›
  · split at hread
    · split at hread <;> cases hread
    · cases hread
  · cases hread

namespace Decoder

variable {d : Decoder α}

/-- A decoder makes of a text of this document what it makes of the document. -/
def StreamsAt (d : Decoder α) (v : Value) : Prop :=
  ∀ depth c c₁, readValue depth c = .ok (v, c₁) →
    ∀ a c', d.ofText depth c = .ok (a, c') ↔ c' = c₁ ∧ d.ofValue v = .ok a

/-- A decoder that streams does so at every document. This is the general case, and `StreamsAt` is
for decoders that stream at most of them. -/
theorem Streams.streamsAt (h : d.Streams) : d.StreamsAt v := by
  intro depth c c₁ hread a c'
  rw [h depth c a c']
  constructor
  · rintro ⟨w, hw, ha⟩
    cases hread.symm.trans hw
    exact ⟨rfl, ha⟩
  · rintro ⟨rfl, ha⟩
    exact ⟨v, hread, ha⟩

/-- Turning what was decoded into something else changes nothing in this, since the conversion comes
after reading and sees neither the text nor the value. -/
theorem StreamsAt.map (h : d.StreamsAt v) (f : α → β) : (d.map f).StreamsAt v := by
  intro depth c c₁ hread b c'
  have hvalue : (d.map f).ofValue v = .ok b ↔ ∃ a, d.ofValue v = .ok a ∧ f a = b :=
    except_map_eq_ok
  rw [map_ofText_eq_ok_iff, hvalue]
  constructor
  · rintro ⟨a, ha, rfl⟩
    obtain ⟨rfl, ha⟩ := (h depth c c₁ hread a c').1 ha
    exact ⟨rfl, a, ha, rfl⟩
  · rintro ⟨rfl, a, ha, rfl⟩
    exact ⟨a, (h depth c c' hread a c').2 ⟨rfl, ha⟩, rfl⟩

/-- Nor does being optional: a text of `null` is one of nothing, and any other is left to the
decoder below. -/
theorem StreamsAt.optional (h : d.StreamsAt v) : (optional d).StreamsAt v := by
  intro depth c c₁ hread o c'
  -- Only `null` starts with this letter, and nothing else is left to the decoder below.
  by_cases hnull : c.skipBlanks.peek? = some 'n'
  · have hscalar : readValue depth c = readScalar c.skipBlanks :=
      readValue_scalar (by rw [hnull]; decide) (by rw [hnull]; decide)
    rw [hscalar, readScalar_null hnull, except_map_eq_ok] at hread
    obtain ⟨⟨⟨⟩, c₂⟩, hword, he⟩ := hread
    cases he
    rw [optional_ofText_null hnull, hword]
    show Except.ok (none, c₁) = _ ↔ _ ∧ Except.ok none = _
    simp [eq_comm, and_comm]
  · have hv : v ≠ .null := by
      rintro rfl
      rcases readValue_cases hread with ⟨-, items, he⟩ | ⟨-, ms, he⟩ | ⟨-, -, -, hscalar⟩
      · cases he
      · cases he
      · exact readScalar_ne_null hnull hscalar
    rw [← readValue_skipBlanks] at hread
    rw [optional_ofText hnull, except_map_eq_ok]
    constructor
    · rintro ⟨⟨a, c₂⟩, ha, he⟩
      cases he
      obtain ⟨rfl, ha⟩ := (h depth _ c₁ hread a c').1 ha
      exact ⟨rfl, optional_eq_some.2 ⟨hv, ha⟩⟩
    · rintro ⟨rfl, ho⟩
      cases o with
      | none => exact absurd (optional_eq_none.1 ho) hv
      | some a =>
        exact ⟨(a, c'), (h depth _ c' hread a c').2 ⟨rfl, (optional_eq_some.1 ho).2⟩, rfl⟩

/-- A choice is made by a string, unless it is made by an object. Objects are left out, since a
choice that is written as one is read in another way from a text. -/
theorem streamsAt_choice {names : List (String × α)} (hobject : ∀ ms, v ≠ .object ms) :
    (choice names).StreamsAt v := by
  intro depth c c₁ hread a c'
  -- An array is refused where it opens. What is inside of it is not looked at.
  rcases readValue_cases hread with ⟨hopens, items, rfl⟩ | ⟨-, ms, rfl⟩ | ⟨hno, hno', hv, hscalar⟩
  · unfold choice
    simp [hopens, failAhead]
  · exact absurd rfl (hobject ms)
  · by_cases hquote : c.skipBlanks.peek? = some '"'
    · rw [readScalar_quote hquote, except_map_eq_ok] at hscalar
      obtain ⟨⟨s, c₂⟩, hs, he⟩ := hscalar
      cases he
      unfold choice
      simp only [hquote, hs]
      unfold readNameOf
      cases hname : nameOf names s with
      | ok b => simp [hname, eq_comm, and_comm]
      | error m => simp [hname, misfit]
    -- Any other scalar is refused in both.
    · cases v with
      | string s => exact absurd hscalar (readScalar_ne_string hquote)
      | array _ | object _ => cases hv
      | null | bool _ | number _ =>
        unfold choice
        dsimp only
        split
        · exact absurd ‹_› hquote
        · exact absurd ‹_› hno'
        · exact absurd ‹_› hno'
        · simp [failAhead]

end Decoder

/-! ### Members of a text -/

variable {fields : List (Field σ)} {p q : Partial σ} {s : σ}

/-- The members that stand in a text are taken in their order. The induction is on the members that
are read; each of them leaves the same partial record in both ways. -/
theorem Partial.membersFrom_keep_iff
    (hstreams : ∀ m ∈ ms, ∀ f, fieldOf? fields m.1 = some f → f.decoder.StreamsAt m.2)
    (h : MembersRead (readValue depth) first c ms c₁) {fuel : Nat} (hfuel : ms.length < fuel) :
    membersFrom (Partial.read fields (Record.readOther depth) depth) fuel first p c =
      .ok (q, c') ↔ c' = c₁ ∧ p.takeAll fields ms = .ok q := by
  -- Both go through the members that are read. Each member leaves the same partial record.
  induction h generalizing fuel p with
  | nil hends =>
    obtain ⟨fuel, rfl⟩ := Nat.exists_eq_add_one_of_ne_zero (Nat.ne_zero_of_lt hfuel)
    rw [membersFrom, hends, takeAll]
    simp [eq_comm, and_comm]
  | @cons first c c₂ c₃ c₁ name v ms hnext hread _ ih =>
    obtain ⟨fuel, rfl⟩ := Nat.exists_eq_add_one_of_ne_zero (Nat.ne_zero_of_lt hfuel)
    obtain ⟨hfirst, hstreams⟩ := List.forall_mem_cons.1 hstreams
    have ih := fun {p} => ih (p := p) hstreams (Nat.lt_of_succ_lt_succ hfuel)
    rw [membersFrom, hnext, takeAll]
    dsimp only
    rw [Partial.read, take]
    cases hf : fieldOf? fields name with
    | none =>
      rw [Record.readOther, hread]
      exact ih
    | some f =>
      obtain ⟨c₄, hcolon, hvalue⟩ := behindColon_eq_ok hread
      have hdirect := hfirst f hf depth c₄ c₃ hvalue
      dsimp only
      by_cases hseen : name ∈ p.seen
      · rw [if_pos hseen, if_pos hseen]
        simp
      · rw [if_neg hseen, if_neg hseen, behindColon, hcolon]
        dsimp only
        -- A field that is refused in the text is refused in the value, or else it would have been
        -- read.
        cases htext : f.decoder.ofText depth c₄ with
        | error e =>
          cases hchange : f.decoder.ofValue v with
          | error m => simp
          | ok change =>
            rw [(hdirect change c₃).2 ⟨rfl, hchange⟩] at htext
            cases htext
        | ok read =>
          obtain ⟨change, c₅⟩ := read
          obtain ⟨rfl, hchange⟩ := (hdirect change c₅).1 htext
          rw [hchange]
          exact ih

namespace Record

variable {r : Record σ}

/-- A record starts at its brace, and its members are read from there. -/
theorem decoder_ofText_object (h : c.skipBlanks.peek? = some '\x7b') :
    r.decoder.ofText (depth + 1) c =
      closing endObject (r.readMembers depth c.skipBlanks.next) := by
  unfold decoder
  simp only [h]

/-- A record is read from an object only. Anything else is an error of the kind of the value. -/
theorem decoder_ofText_ne_ok (h : c.skipBlanks.peek? ≠ some '\x7b') :
    r.decoder.ofText depth c ≠ .ok (s, c') := by
  unfold decoder
  dsimp only
  split
  · exact absurd ‹_› h
  · exact absurd ‹_› h
  · exact Decoder.readMismatch_ne_ok

/-- The members of an object are taken from a text, and the shared fields from what is left over. In
a value both are taken from the same members. -/
theorem readMembers_eq_ok_iff
    (hstreams : ∀ m ∈ ms, ∀ f, fieldOf? r.own m.1 = some f → f.decoder.StreamsAt m.2)
    (h : MembersRead (readValue depth) true c ms c₁) (hlength : ms.length < c.rest.length + 1) :
    r.readMembers depth c = .ok (s, c') ↔
      c' = c₁ ∧ (r.ofMembers ms).map Prod.fst = .ok s := by
  have hown : ∀ {q : Partial σ} {c'},
      foldMembers (Partial.read r.own (readOther depth) depth) (.start r.blank) c = .ok (q, c') ↔
        c' = c₁ ∧ Partial.takeAll r.own (.start r.blank) ms = .ok q :=
    Partial.membersFrom_keep_iff hstreams h hlength
  rw [readMembers, except_bind_eq_ok, except_map_eq_ok]
  -- What is left over by the own fields goes to the shared ones, in either direction.
  constructor
  · rintro ⟨⟨p, c₂⟩, hp, hs⟩
    obtain ⟨rfl, htake⟩ := hown.1 hp
    dsimp only at hs
    split at hs
    · rename_i q hq
      cases hs
      refine ⟨rfl, (q.record, q.others), ?_, rfl⟩
      rw [ofMembers, htake, except_bind_ok, hq, except_bind_ok, except_pure]
    · cases hs
  · rintro ⟨rfl, ⟨t, others⟩, ht, rfl⟩
    obtain ⟨p, q, hp, hq, rfl, -⟩ := ofMembers_eq_ok ht
    refine ⟨(p, c'), hown.2 ⟨rfl, hp⟩, ?_⟩
    dsimp only
    rw [hq]

/-- A record is made of the members that stand in a text, when each of its own fields streams at the
member of its name. -/
theorem decoder_ofText_eq_ok_iff
    (hstreams : ∀ ms, v = .object ms → ∀ m ∈ ms, ∀ f, fieldOf? r.own m.1 = some f →
      f.decoder.StreamsAt m.2.normalize)
    (hread : readDocument (depth + 1) c = .ok (v, c₁)) :
    r.decoder.ofText (depth + 1) c = .ok (s, c') ↔ c' = c₁ ∧
      ∃ ms, v = .object ms ∧ (r.ofMembers (Value.normalizeMembers ms)).map Prod.fst = .ok s := by
  -- Only an object is read by its members. The others are refused by the decoder and have no
  -- members.
  cases readDocument_succ_eq_ok_iff.1 hread with
  | scalar hopens hscalar =>
    have hv := readScalar_isScalar hscalar
    refine iff_of_false (decoder_ofText_ne_ok hopens.2) ?_
    rintro ⟨-, ms, rfl, -⟩
    cases hv
  | array hopens _ _ =>
    refine iff_of_false (decoder_ofText_ne_ok (by simp [hopens])) ?_
    rintro ⟨-, ms, he, -⟩
    cases he
  | @object c₂ ms hopens hlength hmembers =>
    have hvalues : MembersRead (readValue depth) true c.skipBlanks.next
        (Value.normalizeMembers ms) c₂ := by
      rw [Value.normalizeMembers_eq_map]
      refine hmembers.imp fun m _ c c' hdoc => ?_
      exact readValue_eq_ok_iff.2 ⟨m.2, hdoc, rfl⟩
    have hfields : ∀ m ∈ Value.normalizeMembers ms, ∀ f, fieldOf? r.own m.1 = some f →
        f.decoder.StreamsAt m.2 := by
      rw [Value.normalizeMembers_eq_map, List.forall_mem_map]
      exact hstreams ms rfl
    have hlength' : (Value.normalizeMembers ms).length < c.skipBlanks.next.rest.length + 1 := by
      rw [Value.normalizeMembers_eq_map, List.length_map]
      exact hlength
    simp only [decoder_ofText_object hopens, closing_eq_ok_iff,
      readMembers_eq_ok_iff hfields hvalues hlength', Value.object.injEq, exists_eq_left']
    constructor
    · rintro ⟨c₃, ⟨rfl, hs⟩, hend⟩
      cases hmembers.endObject.symm.trans hend
      exact ⟨rfl, hs⟩
    · rintro ⟨rfl, hs⟩
      exact ⟨c₂, ⟨rfl, hs⟩, hmembers.endObject⟩

end Record

/-! ### Texts against values -/

/-- A text stands for the normal form of the document that is read from it. -/
theorem Value.ofBytes_eq_ok_iff {bytes : List UInt8} : Value.ofBytes bytes = .ok v ↔
    ∃ doc, readAll (readDocument greatestDepth) bytes = .ok doc ∧ doc.normalize = v := by
  unfold Value.ofBytes
  simp only [readAll_eq_ok_iff, readValue_eq_ok_iff]
  constructor
  · rintro ⟨c, ⟨doc, hread, rfl⟩, hend⟩
    exact ⟨doc, ⟨c, hread, hend⟩, rfl⟩
  · rintro ⟨doc, ⟨c, hread, hend⟩, rfl⟩
    exact ⟨c, ⟨doc, hread, rfl⟩, hend⟩

/-- One of the names stands more than once among the members of a document. -/
def Value.Repeats (names : List String) (v : Value) : Prop :=
  ∃ ms name, v = .object ms ∧ name ∈ names ∧ 1 < (Members.names ms).count name

/-- An object repeats a name when this name stands in it twice. -/
theorem Value.repeats_object_iff {names : List String} : (Value.object ms).Repeats names ↔
    ∃ name ∈ names, 1 < (Members.names ms).count name := by
  simp [Value.Repeats]

/-- Members of other names do not repeat a name. So only the members of the fields have to be looked
through. -/
theorem Value.repeats_filter_iff {names : List String} (ms : Members) :
    (Value.object (ms.filter fun m => decide (m.1 ∈ names))).Repeats names ↔
      (Value.object ms).Repeats names := by
  rw [repeats_object_iff, repeats_object_iff, Members.names_filter fun n => decide (n ∈ names)]
  refine exists_congr fun name => and_congr_right fun hname => ?_
  rw [List.count_filter (p := fun n => decide (n ∈ names)) (decide_eq_true hname)]

/-- A decoder that knows some names makes of the texts of documents what it makes of the values that
they stand for. `P` tells the documents that are meant. -/
structure Decoder.AgreesOn (d : Decoder α) (names : List String) (P : Value → Prop) : Prop where
  /-- A text is decoded as its value is, unless it repeats a name that is known. -/
  direct : ∀ bytes doc, readAll (readDocument greatestDepth) bytes = .ok doc → P doc →
    ∀ a, d.ofBytes bytes = .ok a ↔ d.ofValue doc.normalize = .ok a ∧ ¬ doc.Repeats names
  /-- In a value the later one of two members counts. -/
  later : ∀ name v before after, name ∈ Members.names after →
    d.ofValue (Value.object (before ++ (name, v) :: after)).normalize =
      d.ofValue (Value.object (before ++ after)).normalize
  /-- Members of other names do not matter in a value. -/
  others : ∀ ms : Members, d.ofValue (Value.object ms).normalize =
    d.ofValue (Value.object (ms.filter fun m => decide (m.1 ∈ names))).normalize
  /-- Members of other names do not matter in a text. -/
  othersDirect : ∀ bytes bytes' ms ms',
    readAll (readDocument greatestDepth) bytes = .ok (.object ms) → P (.object ms) →
    readAll (readDocument greatestDepth) bytes' = .ok (.object ms') → P (.object ms') →
    (ms.filter fun m => decide (m.1 ∈ names)) = (ms'.filter fun m => decide (m.1 ∈ names)) →
    ∀ a, d.ofBytes bytes = .ok a ↔ d.ofBytes bytes' = .ok a

namespace Decoder

variable {d : Decoder α} {names : List String} {P : Value → Prop}

/-- What is said of values says the rest of texts. A text is decoded as its value, so what does not
matter there does not matter in the text. -/
theorem agreesOn_of
    (hdirect : ∀ bytes doc, readAll (readDocument greatestDepth) bytes = .ok doc → P doc →
      ∀ a, d.ofBytes bytes = .ok a ↔ d.ofValue doc.normalize = .ok a ∧ ¬ doc.Repeats names)
    (hothers : ∀ ms : Members, d.ofValue (Value.object ms).normalize =
      d.ofValue (Value.object (ms.filter fun m => decide (m.1 ∈ names))).normalize) :
    d.AgreesOn names P where
  direct := hdirect
  later name v before after h := by
    rw [Members.normalize_object, Members.normalForm_forget h, ← Members.normalize_object]
  others := hothers
  othersDirect bytes bytes' ms ms' hread hms hread' hms' hsame a := by
    rw [hdirect _ _ hread hms, hdirect _ _ hread' hms', hothers ms, hothers ms', hsame,
      ← Value.repeats_filter_iff ms, hsame, Value.repeats_filter_iff]

/-- What a decoder makes of a text that only blanks follow, it makes of the whole text. -/
theorem ofBytes_eq_ok_iff_of_ofText {bytes : List UInt8} {a : α} {p : Prop}
    (h : ∀ c, d.ofText greatestDepth (.start (Text.Symbol.decode bytes)) = .ok (a, c) ↔
      c = c₁ ∧ p)
    (hend : c₁.skipBlanks.atEnd = true) : d.ofBytes bytes = .ok a ↔ p := by
  simp only [ofBytes, readAll_eq_ok_iff, h]
  constructor
  · rintro ⟨c, ⟨-, hp⟩, -⟩
    exact hp
  · exact fun hp => ⟨c₁, ⟨rfl, hp⟩, hend⟩

/-- A further rule is asked of what is decoded from a value. -/
theorem convert_ofValue_eq_ok_iff {f : α → Except Mismatch β} {b : β} :
    (d.convert f).ofValue v = .ok b ↔ ∃ a, d.ofValue v = .ok a ∧ f a = .ok b :=
  except_bind_eq_ok

/-- A further rule is asked of what is decoded from a whole text. -/
theorem convert_ofBytes_eq_ok_iff {f : α → Except Mismatch β} {bytes : List UInt8} {b : β} :
    (d.convert f).ofBytes bytes = .ok b ↔ ∃ a, d.ofBytes bytes = .ok a ∧ f a = .ok b := by
  simp only [ofBytes, readAll_eq_ok_iff, convert_ofText_eq_ok_iff]
  constructor
  · rintro ⟨c, ⟨a, ha, hb⟩, hend⟩
    exact ⟨a, ⟨c, ha, hend⟩, hb⟩
  · rintro ⟨a, ⟨c, ha, hend⟩, hb⟩
    exact ⟨c, ⟨a, ha, hb⟩, hend⟩

/-- A rule that is asked of what was decoded changes nothing in this. So a device agrees as soon as
its draft does. -/
theorem AgreesOn.convert (h : d.AgreesOn names P) (f : α → Except Mismatch β) :
    (d.convert f).AgreesOn names P := by
  refine agreesOn_of (fun bytes doc hread hdoc b => ?_) fun ms => ?_
  · rw [convert_ofBytes_eq_ok_iff, convert_ofValue_eq_ok_iff]
    simp only [h.direct bytes doc hread hdoc]
    constructor
    · rintro ⟨a, ⟨ha, honce⟩, hb⟩
      exact ⟨⟨a, ha, hb⟩, honce⟩
    · rintro ⟨⟨a, ha, hb⟩, honce⟩
      exact ⟨a, ⟨ha, honce⟩, hb⟩
  · exact congrArg (· >>= f) (h.others ms)

end Decoder

section

variable {r : Record σ} {Describe : Members → σ → Prop} {names : List String} {P : Value → Prop}

/-- Members that stand in a text give a record when their normal form gives it and no name of a
field is repeated. A repeated field is refused in a text, where its value would have counted
twice. -/
theorem Record.ofMembers_text_iff (h : r.Describes Describe)
    (hcongr : ∀ ms ms' s, (∀ name, r.hasField name = true → ms.get? name = ms'.get? name) →
      Describe ms s → Describe ms' s)
    (hnames : ∀ name, r.hasField name = true ↔ name ∈ names) :
    (r.ofMembers (Value.normalizeMembers ms)).map Prod.fst = .ok s ↔
      (r.ofMembers ms.normalForm).map Prod.fst = .ok s ∧ ¬ (Value.object ms).Repeats names := by
  have honce : ¬ (Value.object ms).Repeats names ↔ ∀ name, r.hasField name = true →
      (Members.names (Value.normalizeMembers ms)).count name ≤ 1 := by
    rw [PlainRecord.names_normalizeMembers, Value.repeats_object_iff]
    simp only [hnames, not_exists, not_and, Nat.not_lt]
  rw [honce]
  constructor
  · intro hs
    obtain ⟨⟨t, others⟩, ht, -⟩ := except_map_eq_ok.1 hs
    have hknown : ∀ name, r.hasField name = true → _ := fun name => Record.ofMembers_once ht
    exact ⟨(h.ofMembers_sort_iff hcongr hknown).2 hs, hknown⟩
  · rintro ⟨hs, hknown⟩
    exact (h.ofMembers_sort_iff hcongr hknown).1 hs

/-- Members that belong to no field do not matter in a value: they are left over, and leaving them
out before changes nothing. -/
theorem Record.ofMembers_normalForm_filter
    (hnames : ∀ name, r.hasField name = true ↔ name ∈ names) :
    (r.ofMembers ms.normalForm).map Prod.fst =
      (r.ofMembers (Members.normalForm (ms.filter fun m => decide (m.1 ∈ names)))).map
        Prod.fst := by
  have hfield : r.hasField = fun name => decide (name ∈ names) := by
    funext name
    rw [Bool.eq_iff_iff, hnames, decide_eq_true_iff]
  rw [Members.normalForm_filter fun n => decide (n ∈ names), Record.ofMembers_filter r, hfield]

/-- A record is decoded from the members of an object. What is left of them is dropped, as nothing
flattens it here. -/
theorem Record.decoder_ofValue_object :
    r.decoder.ofValue (.object ms) = (r.ofMembers ms).map Prod.fst := rfl

/-- A record is made of the members that stand in a whole text. -/
theorem Record.decoder_ofBytes_eq_ok_iff {bytes : List UInt8}
    (hstreams : ∀ ms, v = .object ms → ∀ m ∈ ms, ∀ f, fieldOf? r.own m.1 = some f →
      f.decoder.StreamsAt m.2.normalize)
    (hread : readAll (readDocument greatestDepth) bytes = .ok v) :
    r.decoder.ofBytes bytes = .ok s ↔
      ∃ ms, v = .object ms ∧ (r.ofMembers (Value.normalizeMembers ms)).map Prod.fst = .ok s := by
  obtain ⟨c₁, hdocument, hend⟩ := readAll_eq_ok_iff.1 hread
  exact Decoder.ofBytes_eq_ok_iff_of_ofText
    (fun c => decoder_ofText_eq_ok_iff hstreams hdocument) hend

/-- The names of the fields of a record are the shared ones and its own. Whether a member is known
is asked of both. -/
theorem Record.hasField_iff {r : Record σ} :
    r.hasField name = true ↔ name ∈ r.shared.map Field.name ++ r.own.map Field.name := by
  rw [hasField, Bool.or_eq_true, isField_iff, isField_iff, List.mem_append, List.mem_map,
    List.mem_map]
  exact or_comm

/-- Records are decoded from texts as from values, but for repeated names of fields. All three kinds
of secrets are such records. -/
theorem Record.agreesOn (h : r.Describes Describe)
    (hcongr : ∀ ms ms' s, (∀ name, r.hasField name = true → ms.get? name = ms'.get? name) →
      Describe ms s → Describe ms' s)
    (hstreams : ∀ ms : Members, P (.object ms) → ∀ m ∈ ms, ∀ f, fieldOf? r.own m.1 = some f →
      f.decoder.StreamsAt m.2.normalize) :
    r.decoder.AgreesOn (r.shared.map Field.name ++ r.own.map Field.name) P := by
  refine Decoder.agreesOn_of (fun bytes doc hread hdoc s => ?_) fun ms => ?_
  · rw [decoder_ofBytes_eq_ok_iff (fun ms he => hstreams ms (he ▸ hdoc)) hread]
    cases doc with
    | object ms =>
      rw [Members.normalize_object, decoder_ofValue_object,
        ← Record.ofMembers_text_iff h hcongr fun _ => hasField_iff]
      simp only [Value.object.injEq, exists_eq_left']
    -- Nothing but an object is a record, in the text or in the value.
    | _ =>
      refine iff_of_false ?_ ?_
      · rintro ⟨ms, he, -⟩
        cases he
      · rintro ⟨hs, -⟩
        cases hs
  · rw [Members.normalize_object, Members.normalize_object]
    exact Record.ofMembers_normalForm_filter fun _ => hasField_iff

end

/-! ### Records that are also written as arrays -/

namespace PlainRecord

variable {r : PlainRecord σ} {Describe : Members → σ → Prop} {P : Value → Prop}

/-- Taking members is making a record of them and forgetting what is left over. -/
theorem takes_iff_map_fst : r.Takes ms s ↔ (r.asRecord.ofMembers ms).map Prod.fst = .ok s := by
  rw [takes_iff_ofMembers, except_map_eq_ok]
  simp

/-- A record that is also written as an array has all of its fields for its own. -/
theorem hasField_asRecord_iff : r.asRecord.hasField name = true ↔ name ∈ r.names := by
  rw [← isField_iff_mem_names, Record.hasField, Bool.or_eq_true]
  exact or_iff_left Bool.false_ne_true

/-- A record is made of the members that a whole text gives its fields. A text that is read at all
is nowhere too deep for them. -/
theorem decoder_ofBytes_eq_ok_iff {bytes : List UInt8} (hnodup : r.names.Nodup)
    (hfields : ∀ f ∈ r.fields, f.decoder.Streams)
    (hread : readAll (readDocument greatestDepth) bytes = .ok v) :
    r.decoder.ofBytes bytes = .ok s ↔
      ∃ ms, r.membersOf? v = some ms ∧ r.Takes (Value.normalizeMembers ms) s := by
  obtain ⟨c₁, hdocument, hend⟩ := readAll_eq_ok_iff.1 hread
  have hshallow : r.IsShallow greatestDepth v :=
    isShallow_of_levels (levels_le_of_readDocument hdocument)
  rw [Decoder.ofBytes_eq_ok_iff_of_ofText
    (fun c => decoder_ofText_eq_ok_iff hnodup hfields hdocument) hend]
  refine exists_congr fun ms => and_congr_right fun hms => and_iff_right fun m hm hname => ?_
  exact Nat.le_of_lt_succ (hshallow ms hms m hm hname)

/-- Records that pass over other members are decoded from texts as from values, also when they are
written as arrays. An array has no names that it could repeat. -/
theorem agreesOn (h : r.asRecord.Describes Describe)
    (hcongr : ∀ ms ms' s, (∀ name ∈ r.names, Members.get? name ms = ms'.get? name) →
      Describe ms s → Describe ms' s)
    (hnodup : r.names.Nodup) (hfields : ∀ f ∈ r.fields, f.decoder.Streams) :
    r.decoder.AgreesOn r.names P := by
  refine Decoder.agreesOn_of (fun bytes doc hread _ s => ?_) fun ms => ?_
  · rw [decoder_ofBytes_eq_ok_iff hnodup hfields hread, decoder_ofValue_eq_ok_iff hnodup]
    cases doc with
    | object ms =>
      rw [Members.normalize_object]
      simp only [membersOf?, Option.some.injEq, exists_eq_left', takes_iff_map_fst]
      refine Record.ofMembers_text_iff h (fun ms ms' s hget => hcongr ms ms' s fun name hname => ?_)
        fun _ => hasField_asRecord_iff
      exact hget name (hasField_asRecord_iff.2 hname)
    -- The items of an array have no names that could be repeated.
    | array items =>
      have honce : ¬ (Value.array items).Repeats r.names := by
        rintro ⟨ms, -, he, -⟩
        cases he
      rw [Value.normalize_array, and_iff_left honce, membersOf?, membersOf?, List.length_map]
      by_cases hfew : items.length ≤ r.names.length
      · simp only [if_pos hfew, Option.some.injEq, exists_eq_left', normalizeMembers_zip]
      · simp [if_neg hfew]
    | _ =>
      refine iff_of_false ?_ ?_
      · rintro ⟨ms, hms, -⟩
        cases hms
      · rintro ⟨⟨ms, hms, -⟩, -⟩
        cases hms
  · have hkeep : ∀ name, isField r.fields name = true →
        (fun n => decide (n ∈ r.names)) name = true :=
      fun name hname => decide_eq_true (isField_iff_mem_names.1 hname)
    have hstart : (Partial.start r.blank).Agrees (Partial.start r.blank) := ⟨rfl, rfl⟩
    rw [Members.normalize_object, Members.normalize_object,
      Members.normalForm_filter fun n => decide (n ∈ r.names)]
    exact Partial.takeAll_filter hkeep hstart

end PlainRecord

end DeviceRegistry.Json
