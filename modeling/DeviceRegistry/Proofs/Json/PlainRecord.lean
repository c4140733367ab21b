import DeviceRegistry.Proofs.Json.Record
import DeviceRegistry.Proofs.Json.Skip
import DeviceRegistry.Proofs.Json.Streaming

/-!
# `DeviceRegistry.Proofs.Json.PlainRecord`: records that pass over what they do not know

A record with own fields only takes the members of an object or the items of an array
(`membersOf?`), whether it is decoded from a document or directly from a text. From a text it reads
its fields only as deep as it may, while members that it does not know are passed over however deep
they are. Main statements:

* `decoder_ofValue_eq_ok_iff`: documents.
* `decoder_ofText_eq_ok_iff`: texts of documents.
* `takes_iff`: members that are taken, given what describes the record.
* `decoder_ofText_invariant`: what fields keep, records that are read from a text have.
-/

set_option autoImplicit false

namespace DeviceRegistry.Json

/-- The names of a document's members, if it is an object, are not repeated. A normal form repeats
none. -/
def Value.NamesOnce (v : Value) : Prop := ∀ ms : Members, v = .object ms → ms.names.Nodup

variable {α σ : Type} {fields : List (Field σ)} {name : String} {v : Value} {ms : Members}
  {depth deep : Nat} {c c₁ c' : Cursor} {first : Bool} {s s' : σ}

/-! ### A part of a text whose document is known -/

/-- A decoder that streams reads a text of a document when the document is not too deep and can be
decoded. The document is read here at any depth, so that both can be compared. -/
theorem Decoder.Streams.ofText_eq_ok_iff {d : Decoder α} {a : α} (h : d.Streams)
    (hread : readDocument deep c = .ok (v, c₁)) :
    d.ofText depth c = .ok (a, c') ↔
      c' = c₁ ∧ v.levels ≤ depth ∧ d.ofValue v.normalize = .ok a := by
  rw [h depth c a c']
  constructor
  · rintro ⟨w, hw, ha⟩
    obtain ⟨doc, hdoc, rfl⟩ := readValue_eq_ok_iff.1 hw
    have hlevels := levels_le_of_readDocument hdoc
    -- Both readings find the same document, as the deeper of them does.
    have hdoc' := readDocument_of_levels hdoc (Nat.le_trans hlevels (Nat.le_max_left depth deep))
    have hread' := readDocument_of_levels hread
      (Nat.le_trans (levels_le_of_readDocument hread) (Nat.le_max_right depth deep))
    cases hdoc'.symm.trans hread'
    exact ⟨rfl, hlevels, ha⟩
  · rintro ⟨rfl, hlevels, ha⟩
    exact ⟨_, readValue_eq_ok_iff.2 ⟨v, readDocument_of_levels hread hlevels, rfl⟩, ha⟩

/-- The same holds of what stands behind a colon. The colon is read in the same way by both. -/
theorem Decoder.Streams.behindColon_eq_ok_iff {d : Decoder α} {a : α} (h : d.Streams)
    (hread : behindColon (readDocument deep) c = .ok (v, c₁)) :
    behindColon (d.ofText depth) c = .ok (a, c') ↔
      c' = c₁ ∧ v.levels ≤ depth ∧ d.ofValue v.normalize = .ok a := by
  obtain ⟨c₂, hcolon, hv⟩ := behindColon_eq_ok hread
  rw [behindColon, hcolon]
  exact h.ofText_eq_ok_iff hv

/-- A member of no field is passed over, however deep its value is. -/
theorem readOther_of_behindColon {p : Partial σ}
    (hread : behindColon (readDocument deep) c = .ok (v, c₁)) :
    PlainRecord.readOther p name c = .ok (p, c₁) := by
  obtain ⟨c₂, hcolon, hv⟩ := behindColon_eq_ok hread
  rw [PlainRecord.readOther, behindColon, hcolon]
  dsimp only
  rw [skipValue_of_readDocument hv]
  rfl

/-! ### Members of an object -/

namespace Partial

variable {p q : Partial σ}

/-- Two records in the making have the same fields set, whatever else they keep. -/
structure Agrees (p q : Partial σ) : Prop where
  record : p.record = q.record
  seen : p.seen = q.seen

/-- Setting the same field keeps two records in the making in agreement. -/
theorem Agrees.set (h : p.Agrees q) (name : String) (change : σ → σ) :
    (p.set name change).Agrees (q.set name change) :=
  ⟨congrArg change h.record, congrArg (name :: ·) h.seen⟩

/-- The members that stand in a text are taken as those of its document are, when those that belong
to fields are not too deep. The induction is on the members that are read, of which each is set in
both or passed over in one and kept in the other. -/
theorem membersFrom_read_iff (hfields : ∀ f ∈ fields, f.decoder.Streams)
    (h : MembersRead (readDocument deep) first c ms c₁) (hpq : p.Agrees q) {fuel : Nat}
    (hfuel : ms.length < fuel) :
    (∃ p', membersFrom (Partial.read fields PlainRecord.readOther depth) fuel first p c =
        .ok (p', c') ∧ p'.record = s) ↔
      c' = c₁ ∧ (∀ m ∈ ms, isField fields m.1 = true → m.2.levels ≤ depth) ∧
        ∃ q', q.takeAll fields (Value.normalizeMembers ms) = .ok q' ∧ q'.record = s := by
  induction h generalizing fuel p q with
  | nil hends =>
    obtain ⟨fuel, rfl⟩ := Nat.exists_eq_add_one_of_ne_zero (Nat.ne_zero_of_lt hfuel)
    rw [membersFrom, hends]
    constructor
    · rintro ⟨p', hp', rfl⟩
      cases hp'
      exact ⟨rfl, by simp, q, rfl, hpq.record.symm⟩
    · rintro ⟨rfl, -, q', hq', rfl⟩
      cases hq'
      exact ⟨p, rfl, hpq.record⟩
  | @cons first c c₂ c₃ c₁ name v ms hnext hread _ ih =>
    obtain ⟨fuel, rfl⟩ := Nat.exists_eq_add_one_of_ne_zero (Nat.ne_zero_of_lt hfuel)
    have hfuel := Nat.lt_of_succ_lt_succ hfuel
    rw [membersFrom, hnext, Value.normalizeMembers, takeAll, List.forall_mem_cons]
    dsimp only
    rw [Partial.read, take, isField]
    cases hf : fieldOf? fields name with
    -- A member that is no field is passed over here, and kept when the document is decoded.
    | none =>
      rw [readOther_of_behindColon hread]
      simp only [Option.isSome_none, Bool.false_eq_true, false_implies, true_and, except_bind_ok]
      exact ih (q := q.keep name v.normalize) ⟨hpq.record, hpq.seen⟩ hfuel
    | some f =>
      have hvalue : ∀ change c', behindColon (f.decoder.ofText depth) c₂ = .ok (change, c') ↔
          c' = c₃ ∧ v.levels ≤ depth ∧ f.decoder.ofValue v.normalize = .ok change :=
        fun _ _ => (hfields f (fieldOf?_eq_some hf).1).behindColon_eq_ok_iff hread
      dsimp only
      by_cases hseen : name ∈ p.seen
      · rw [if_pos hseen, if_pos (hpq.seen ▸ hseen)]
        simp
      · rw [if_neg hseen, if_neg (hpq.seen ▸ hseen)]
        cases hbehind : behindColon (f.decoder.ofText depth) c₂ with
        | error e =>
          simp only [except_map_error, reduceCtorEq, false_and, exists_false, false_iff]
          rintro ⟨-, ⟨hlevels, -⟩, q', hq', -⟩
          obtain ⟨q₁, hq₁, -⟩ := except_bind_eq_ok.1 hq'
          obtain ⟨change, hchange, -⟩ := except_map_eq_ok.1 hq₁
          rw [(hvalue _ _).2 ⟨rfl, hlevels rfl, hchange⟩] at hbehind
          cases hbehind
        | ok read =>
          obtain ⟨change, c₄⟩ := read
          obtain ⟨rfl, hlevels, hchange⟩ := (hvalue _ _).1 hbehind
          rw [hchange]
          simp only [except_map_ok, except_bind_ok, hlevels, implies_true, true_and]
          exact ih (hpq.set name change) hfuel

end Partial

/-! ### Items of an array -/

namespace PlainRecord

variable {length : Nat} {items : List Value}

/-- The items that stand in a text are taken as those of its document are, when they are not too
deep. The induction is on the fields, each of which takes the next item. -/
theorem readFields_iff (length : Nat) (hfields : ∀ f ∈ fields, f.decoder.Streams)
    (h : ItemsRead (readDocument deep) first c items c₁) :
    (∃ c₂, readFields depth fields first s c = .ok (s', c₂) ∧ endList c₂ = (c', none)) ↔
      c' = c₁.next ∧ (∀ v ∈ items, v.levels ≤ depth) ∧
        ofItems length fields s (Value.normalizeItems items) = .ok s' := by
  -- The fields and the items are gone through together, and either may end first.
  induction fields generalizing first c items s with
  | nil =>
    rw [readFields]
    cases h with
    | nil hends =>
      obtain ⟨hpeek, rfl⟩ := nextItem_eq_end_iff.1 hends
      constructor
      · rintro ⟨c₂, hdone, hend⟩
        cases hdone
        exact ⟨(endList_eq_none_iff.1 hend).2, by simp, rfl⟩
      · rintro ⟨rfl, -, hdone⟩
        cases hdone
        exact ⟨c, rfl, endList_eq_none_iff.2 ⟨hpeek, rfl⟩⟩
    | cons hnext hread hrest =>
      obtain ⟨hclose, -, -⟩ := nextItem_eq_item hnext
      simp [Value.normalizeItems, ofItems, endList_eq_none_iff, hclose]
  | cons f fields ih =>
    rw [readFields]
    cases h with
    | nil hends =>
      have hnone : ItemsRead (readDocument deep) first c [] c₁ := .nil hends
      have hend := hnone.endList
      rw [hends, except_bind_ok]
      constructor
      · rintro ⟨c₂, hdone, hend'⟩
        cases hdone
        cases hend.symm.trans hend'
        exact ⟨rfl, by simp, rfl⟩
      · rintro ⟨rfl, -, hdone⟩
        cases hdone
        exact ⟨c₁, rfl, hend⟩
    | @cons _ _ c₃ c₄ _ v items hnext hread hrest =>
      obtain ⟨hf, hfields⟩ := List.forall_mem_cons.1 hfields
      have hvalue : ∀ change c', f.decoder.ofText depth c₃ = .ok (change, c') ↔
          c' = c₄ ∧ v.levels ≤ depth ∧ f.decoder.ofValue v.normalize = .ok change :=
        fun _ _ => hf.ofText_eq_ok_iff hread
      rw [hnext, except_bind_ok, Value.normalizeItems, ofItems, List.forall_mem_cons]
      dsimp only
      cases hitem : f.decoder.ofText depth c₃ with
      | error e =>
        simp only [except_bind_error, reduceCtorEq, false_and, exists_false, false_iff]
        rintro ⟨-, ⟨hlevels, -⟩, hdone⟩
        obtain ⟨change, hchange, -⟩ := except_bind_eq_ok.1 hdone
        rw [(hvalue _ _).2 ⟨rfl, hlevels, hchange⟩] at hitem
        cases hitem
      | ok read =>
        obtain ⟨change, c₅⟩ := read
        obtain ⟨rfl, hlevels, hchange⟩ := (hvalue _ _).1 hitem
        rw [hchange, except_bind_ok, except_bind_ok]
        simp only [hlevels, true_and]
        exact ih hfields hrest

/-! ### Records -/

/-- The names of the fields of a record, in their order. -/
def names (r : PlainRecord σ) : List String := r.fields.map Field.name

/-- The members that a document gives a record: those of an object, or the items of an array as the
fields in order. -/
def membersOf? (r : PlainRecord σ) : Value → Option Members
  | .object ms => some ms
  | .array items => if items.length ≤ r.names.length then some (r.names.zip items) else none
  | _ => none

/-- The names of items are those of the first fields. An array may have fewer items than there are
fields, and then the last names are not given. -/
theorem names_zip {names : List String} :
    Members.names (names.zip items) = names.take items.length := by
  induction names generalizing items with
  | nil => rw [List.zip_nil_left, List.take_nil]; rfl
  | cons name names ih =>
    cases items with
    | nil => rfl
    | cons v items =>
      rw [List.zip_cons_cons, Members.names_cons, ih, List.length_cons, List.take_succ_cons]

/-- What belongs to the fields of a record has less than `depth` levels. -/
def IsShallow (r : PlainRecord σ) (depth : Nat) (v : Value) : Prop :=
  ∀ ms, r.membersOf? v = some ms → ∀ m ∈ ms, m.1 ∈ r.names → m.2.levels < depth

/-- In a document that is not too deep nothing is, as what belongs to a field is a part of it. -/
theorem isShallow_of_levels {r : PlainRecord σ} (h : v.levels ≤ depth) : r.IsShallow depth v := by
  intro ms hms m hm _
  unfold membersOf? at hms
  split at hms
  · cases hms
    rw [Value.levels] at h
    exact Nat.lt_of_le_of_lt (Value.memberLevels_le_iff.1 (Nat.le_refl _) m hm) h
  · split at hms
    · cases hms
      rw [Value.levels] at h
      have hitem := Value.itemLevels_le_iff.1 (Nat.le_refl _) m.2 (List.of_mem_zip hm).2
      exact Nat.lt_of_le_of_lt hitem h
    · cases hms
  · cases hms

/-- A record is what is made of members in their order. -/
def Takes (r : PlainRecord σ) (ms : Members) (s : σ) : Prop :=
  ∃ p, Partial.takeAll r.fields (.start r.blank) ms = .ok p ∧ p.record = s

variable {r : PlainRecord σ}

/-- A field is found under its name when no other field has it. The names of a record are all
different, so this holds of each of its fields. -/
theorem fieldOf?_of_mem {f : Field σ} (hnodup : (fields.map Field.name).Nodup) (hf : f ∈ fields) :
    fieldOf? fields f.name = some f := by
  induction fields with
  | nil => cases hf
  | cons g fields ih =>
    rw [List.map_cons, List.nodup_cons] at hnodup
    rw [fieldOf?, List.find?_cons]
    rcases List.mem_cons.1 hf with rfl | hf
    · simp
    · have hne : g.name ≠ f.name := fun he => hnodup.1 (he ▸ List.mem_map_of_mem hf)
      simp only [hne, decide_false]
      exact ih hnodup.2 hf

/-- Items are taken as the members that have the names of the fields, one after the other. None of
them is repeated, and there may be less of them than fields, but not more. -/
theorem ofItems_eq_ok_iff {rest : List (Field σ)} {p : Partial σ}
    (hfind : ∀ f ∈ rest, fieldOf? fields f.name = some f) (hnodup : (rest.map Field.name).Nodup)
    (hseen : ∀ f ∈ rest, f.name ∉ p.seen) :
    ofItems length rest p.record items = .ok s ↔ items.length ≤ rest.length ∧
      ∃ q, p.takeAll fields ((rest.map Field.name).zip items) = .ok q ∧ q.record = s := by
  -- The items have the names of the fields in order, so the first item is taken by the first field.
  induction items generalizing rest p with
  | nil =>
    cases rest <;> simp [ofItems, Partial.takeAll]
  | cons v items ih =>
    cases rest with
    | nil => simp [ofItems]
    | cons f rest =>
      obtain ⟨hf, hfind⟩ := List.forall_mem_cons.1 hfind
      obtain ⟨hnew, hseen⟩ := List.forall_mem_cons.1 hseen
      rw [List.map_cons, List.nodup_cons] at hnodup
      rw [ofItems, List.map_cons, List.zip_cons_cons, Partial.takeAll, Partial.take, hf]
      dsimp only
      rw [if_neg hnew]
      cases f.decoder.ofValue v with
      | error m => simp
      | ok change =>
        have hrest := ih (p := p.set f.name change) hfind hnodup.2 ?_
        · simp only [except_map_ok, except_bind_ok, List.length_cons, Nat.add_le_add_iff_right]
          exact hrest
        · intro g hg hmem
          rcases List.mem_cons.1 hmem with he | hmem
          · exact hnodup.1 (he ▸ List.mem_map_of_mem hg)
          · exact hseen g hg hmem

/-- The names of fields are the names of a record. One is a test on the table, and the other is a
list that proofs go through. -/
theorem isField_iff_mem_names : isField r.fields name = true ↔ name ∈ r.names := by
  rw [isField_iff, names, List.mem_map]

/-- All items of an array are taken as members of a blank record. -/
theorem ofItems_fields (hnames : r.names.Nodup) :
    ofItems length r.fields r.blank items = .ok s ↔
      items.length ≤ r.names.length ∧ r.Takes (r.names.zip items) s := by
  show ofItems length r.fields (Partial.start r.blank).record items = .ok s ↔ _
  rw [ofItems_eq_ok_iff (fun f hf => fieldOf?_of_mem hnames hf) hnames
    (fun f _ => List.not_mem_nil), names, List.length_map]
  exact Iff.rfl

/-- A record is decoded from the members that a document gives it: the object as it is, or the items
of an array by their places. -/
theorem decoder_ofValue_eq_ok_iff (hnames : r.names.Nodup) :
    r.decoder.ofValue v = .ok s ↔ ∃ ms, r.membersOf? v = some ms ∧ r.Takes ms s := by
  cases v with
  | object ms =>
    show (Partial.takeAll r.fields (.start r.blank) ms).map Partial.record = .ok s ↔ _
    simp [membersOf?, Takes, except_map_eq_ok]
  | array items =>
    show ofItems items.length r.fields r.blank items = .ok s ↔ _
    simp [ofItems_fields hnames, membersOf?, and_assoc]
  | _ => simp [decoder, membersOf?]

/-- A plain record is a record that shares no fields. -/
def asRecord (r : PlainRecord σ) : Record σ := ⟨r.expected, r.blank, r.fields, []⟩

/-- Where no field is shared, all members that are left over are kept. -/
theorem takeAll_no_fields (p : Partial σ) :
    p.takeAll [] ms = .ok { p with others := p.others ++ ms } := by
  induction ms generalizing p with
  | nil => rw [Partial.takeAll, List.append_nil]
  | cons m ms ih =>
    rw [Partial.takeAll]
    refine (ih (p.keep m.1 m.2)).trans ?_
    rw [Partial.keep, List.append_assoc, List.singleton_append]

/-- What is taken from members is what a record without shared fields makes of them. -/
theorem takes_iff_ofMembers :
    r.Takes ms s ↔ ∃ others, r.asRecord.ofMembers ms = .ok (s, others) := by
  unfold Takes Record.ofMembers asRecord
  dsimp only
  cases Partial.takeAll r.fields (.start r.blank) ms with
  | error m => simp
  | ok p => simp [takeAll_no_fields, Partial.start]

/-- What is made of members is what they describe, in whatever order they stand. -/
theorem takes_iff {Describe : Members → σ → Prop} (h : r.asRecord.Describes Describe)
    (hnodup : ms.names.Nodup) : r.Takes ms s ↔ Describe ms s := by
  rw [takes_iff_ofMembers]
  constructor
  · rintro ⟨others, hs⟩
    exact h.sound ms s others hnodup hs
  · exact fun hs => ⟨_, h.ofMembers hnodup hs⟩

/-- Members that an array gives are normalized with its items. The names are those of the fields,
and are not in the array. -/
theorem normalizeMembers_zip {names : List String} :
    Value.normalizeMembers (names.zip items) = names.zip (items.map Value.normalize) := by
  rw [Value.normalizeMembers_eq_map, List.zip_map_right]
  rfl

/-- The members that a document gives a record have different names: those of an object by
assumption, those of an array because fields have. -/
theorem nodup_of_membersOf? (hnames : r.names.Nodup) (hv : v.NamesOnce)
    (h : r.membersOf? v = some ms) : ms.names.Nodup := by
  unfold membersOf? at h
  split at h
  · cases h
    exact hv _ rfl
  · split at h
    · cases h
      rw [names_zip]
      exact hnames.sublist (List.take_sublist _ _)
    · cases h
  · cases h

/-- Normalizing the values of members leaves their names, so a search among them finds the value in
normal form. -/
theorem names_normalizeMembers : Members.names (Value.normalizeMembers ms) = ms.names := by
  rw [Value.normalizeMembers_eq_map, Members.names, Members.names, List.map_map]
  rfl

/-- The normal form of a document gives a record the normal forms of its members. They stand in
order then, which makes no difference for what is found under a name. -/
theorem membersOf?_normalize (hv : v.NamesOnce) :
    (r.membersOf? v = none ∧ r.membersOf? v.normalize = none) ∨
      ∃ ms ms', r.membersOf? v = some ms ∧ r.membersOf? v.normalize = some ms' ∧
        ∀ name, ms'.get? name = Members.get? name (Value.normalizeMembers ms) := by
  -- An object is sorted by its names, which do not repeat. An array keeps its order, and its names
  -- are those of the record.
  cases v with
  | object ms =>
    refine .inr ⟨ms, Members.normalForm ms, rfl, ?_, fun name => ?_⟩
    · rw [Members.normalize_object]
      rfl
    · rw [Members.get?_normalForm, Members.get?_reverse (hv ms rfl),
        Value.normalizeMembers_eq_map, Members.get?_map_normalize]
  | array items =>
    rw [Value.normalize_array, membersOf?, membersOf?, List.length_map]
    by_cases hfew : items.length ≤ r.names.length
    · rw [if_pos hfew, if_pos hfew]
      exact .inr ⟨_, _, rfl, rfl, fun name => by rw [normalizeMembers_zip]⟩
    · rw [if_neg hfew, if_neg hfew]
      exact .inl ⟨rfl, rfl⟩
  | _ => exact .inl ⟨rfl, rfl⟩

/-! ### Texts -/

/-- What every item satisfies, every member of it satisfies, as there are names enough. The names in
front of items are what an array gives to a record. -/
theorem forall_mem_zip_iff {names : List String} {P : Value → Prop}
    (hlength : items.length ≤ names.length) :
    (∀ m ∈ names.zip items, m.1 ∈ names → P m.2) ↔ ∀ v ∈ items, P v := by
  constructor
  · intro h v hv
    rw [← List.map_snd_zip hlength] at hv
    obtain ⟨m, hm, rfl⟩ := List.mem_map.1 hv
    exact h m hm (List.of_mem_zip hm).1
  · intro h m hm _
    exact h m.2 (List.of_mem_zip hm).2

/-- The members of a text are taken one by one, and the record that is left in the end is what was
read. -/
theorem readMembers_eq_ok_iff : r.readMembers depth c = .ok (s, c') ↔
    ∃ p, foldMembers (Partial.read r.fields readOther depth) (.start r.blank) c = .ok (p, c') ∧
      p.record = s := by
  rw [readMembers, except_map_eq_ok]
  constructor
  · rintro ⟨⟨p, c₁⟩, hread, h⟩
    cases h
    exact ⟨p, hread, rfl⟩
  · rintro ⟨p, hread, rfl⟩
    exact ⟨(p, c'), hread, rfl⟩

/-- A record starts at its brace, and its members are read from there. -/
theorem decoder_ofText_object (h : c.skipBlanks.peek? = some '\x7b') :
    r.decoder.ofText (depth + 1) c =
      closing endObject (r.readMembers depth c.skipBlanks.next) := by
  unfold decoder
  simp only [h]

/-- A record starts at a bracket when it is written as an array, and its fields are read from
there. -/
theorem decoder_ofText_array (h : c.skipBlanks.peek? = some '[') :
    r.decoder.ofText (depth + 1) c =
      closing endList (readFields depth r.fields true r.blank c.skipBlanks.next) := by
  unfold decoder
  simp only [h]

/-- A record is read from nothing else: without a bracket or a brace the text is one of a scalar,
and a record refuses all of those. -/
theorem decoder_ofText_scalar (harray : c.skipBlanks.peek? ≠ some '[')
    (hobject : c.skipBlanks.peek? ≠ some '\x7b') : r.decoder.ofText depth c ≠ .ok (s, c') := by
  unfold decoder
  dsimp only
  split
  · exact absurd ‹_› hobject
  · exact absurd ‹_› harray
  · exact absurd ‹_› hobject
  · exact absurd ‹_› harray
  · exact Decoder.readMismatch_ne_ok

/-- From a text a record is decoded as from its document, when what belongs to its fields is not too
deep. The cases are those of the document: a scalar is no record, and arrays and objects have been
looked at. -/
theorem decoder_ofText_eq_ok_iff (hnames : r.names.Nodup)
    (hfields : ∀ f ∈ r.fields, f.decoder.Streams) (hread : readDocument deep c = .ok (v, c₁)) :
    r.decoder.ofText (depth + 1) c = .ok (s, c') ↔ c' = c₁ ∧ ∃ ms, r.membersOf? v = some ms ∧
      (∀ m ∈ ms, m.1 ∈ r.names → m.2.levels ≤ depth) ∧ r.Takes (Value.normalizeMembers ms) s := by
  obtain ⟨deep, hwritten⟩ := exists_written hread
  -- Such a record may be written as an array or as an object. Both have members, and a scalar has
  -- none.
  cases hwritten with
  | scalar hopens hscalar =>
    have hv := readScalar_isScalar hscalar
    constructor
    · exact fun h => absurd h (decoder_ofText_scalar hopens.1 hopens.2)
    · rintro ⟨-, ms, hms, -⟩
      cases v with
      | array _ | object _ => cases hv
      | _ => cases hms
  | @array c₂ items hopens hlength hitems =>
    rw [decoder_ofText_array hopens, closing_eq_ok_iff,
      readFields_iff items.length hfields hitems, ofItems_fields hnames,
      Value.normalizeItems_eq_map, List.length_map, ← normalizeMembers_zip]
    by_cases hfew : items.length ≤ r.names.length
    · have hgiven : r.membersOf? (.array items) = some (r.names.zip items) := if_pos hfew
      simp only [hgiven, Option.some.injEq, exists_eq_left', hfew, true_and,
        forall_mem_zip_iff (P := fun v => v.levels ≤ depth) hfew]
    · simp [membersOf?, hfew]
  | @object c₂ ms hopens hlength hmembers =>
    have hstart : (Partial.start r.blank).Agrees (Partial.start r.blank) := ⟨rfl, rfl⟩
    simp only [decoder_ofText_object hopens, closing_eq_ok_iff, readMembers_eq_ok_iff, foldMembers,
      Partial.membersFrom_read_iff hfields hmembers hstart hlength, membersOf?, Option.some.injEq,
      exists_eq_left', isField_iff_mem_names]
    constructor
    · rintro ⟨c₃, ⟨rfl, hshallow, htakes⟩, hend⟩
      cases hmembers.endObject.symm.trans hend
      exact ⟨rfl, hshallow, htakes⟩
    · rintro ⟨rfl, hshallow, htakes⟩
      exact ⟨c₂, ⟨rfl, hshallow, htakes⟩, hmembers.endObject⟩

/-! ### Invariants -/

section

variable {P : σ → Prop}

/-- Nothing that a field makes of what stands in a text breaks a property of records. -/
def Keeps (P : σ → Prop) (depth : Nat) (f : Field σ) : Prop :=
  ∀ c change c', f.decoder.ofText depth c = .ok (change, c') → ∀ s, P s → P (change s)

/-- Taking a member keeps what its field keeps. A member that is no field leaves the record as it
is, and is only passed over. -/
theorem read_invariant (hfields : ∀ f ∈ fields, Keeps P depth f) {p p' : Partial σ}
    (hp : P p.record) (h : Partial.read fields readOther depth p name c = .ok (p', c')) :
    P p'.record := by
  unfold Partial.read at h
  split at h
  -- A member that is no field leaves the record as it is.
  · unfold readOther at h
    split at h
    · cases h
      exact hp
    · cases h
  · rename_i f hf
    split at h
    · cases h
    · obtain ⟨⟨change, c₁⟩, hread, h⟩ := except_map_eq_ok.1 h
      cases h
      obtain ⟨c₂, -, hread⟩ := behindColon_eq_ok hread
      exact hfields f (fieldOf?_eq_some hf).1 _ _ _ hread _ hp

/-- Reading the fields of an array keeps what each of them keeps. The induction is on the fields, as
there may be fewer items than those. -/
theorem readFields_invariant (hfields : ∀ f ∈ fields, Keeps P depth f) (hs : P s)
    (h : readFields depth fields first s c = .ok (s', c')) : P s' := by
  induction fields generalizing first s c with
  | nil =>
    cases h
    exact hs
  | cons f fields ih =>
    rw [readFields] at h
    obtain ⟨hf, hfields⟩ := List.forall_mem_cons.1 hfields
    obtain ⟨⟨more, c₁⟩, -, h⟩ := except_bind_eq_ok.1 h
    cases more with
    | false =>
      cases h
      exact hs
    | true =>
      obtain ⟨⟨change, c₂⟩, hread, h⟩ := except_bind_eq_ok.1 h
      exact ih hfields (hf _ _ _ hread _ hs) h

/-- What holds of a blank record and is kept by its fields holds of every record that is read from a
text, whatever the members are that are passed over. -/
theorem decoder_ofText_invariant (hblank : P r.blank) (hfields : ∀ f ∈ r.fields, Keeps P depth f)
    (h : r.decoder.ofText (depth + 1) c = .ok (s, c')) : P s := by
  by_cases hobject : c.skipBlanks.peek? = some '\x7b'
  · rw [decoder_ofText_object hobject] at h
    obtain ⟨c₁, h⟩ := exists_of_closing h
    obtain ⟨p, hread, rfl⟩ := readMembers_eq_ok_iff.1 h
    have hkeeps : ∀ (p : Partial σ) name c p' c', P p.record →
        Partial.read r.fields readOther depth p name c = .ok (p', c') → P p'.record := by
      intro p name c p' c' hp hread
      exact read_invariant hfields hp hread
    exact membersFrom_invariant (P := fun p => P p.record) hkeeps hblank hread
  · by_cases harray : c.skipBlanks.peek? = some '['
    · rw [decoder_ofText_array harray] at h
      obtain ⟨c₁, h⟩ := exists_of_closing h
      exact readFields_invariant hfields hblank h
    · exact absurd h (decoder_ofText_scalar harray hobject)

end

end PlainRecord

end DeviceRegistry.Json
