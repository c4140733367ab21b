import DeviceRegistry.Json.Decoder
import DeviceRegistry.Proofs.Json.Normal
import DeviceRegistry.Proofs.Steps

/-!
# `DeviceRegistry.Proofs.Json.Record`: records as tables of fields

A record is decoded member by member, in whatever order the members stand. When no name is
repeated, the outcome does not depend on that order: every field is read from the one member of its
name. Main statements:

* `Record.ofMembers_reads`: a decoded record holds in every field what the member of the field's
  name says, or what the blank record holds.
* `Record.ofMembers_others`: what is left over are the members that belong to no field.
* `Record.exists_ofMembers`: decoding succeeds when the member of every field can be read.
* `Record.Describes.decoder_eq_ok_iff`: a record is decoded from exactly the objects that describe
  it.
-/

set_option autoImplicit false

namespace DeviceRegistry.Json

variable {σ α : Type} {k name : String} {v : Value} {ms : Members}

/-! ### What a member says -/

/-- The member of a name says `a`, as `d` reads it; without such a member `a` is `blank`. -/
def Members.Reads (ms : Members) (name : String) (d : Decoder α) (blank a : α) : Prop :=
  match ms.get? name with
  | none => a = blank
  | some v => d.ofValue v = .ok a

namespace Members.Reads

variable {d : Decoder α} {blank a b : α}

/-- Without a member the field is left blank. What is blank depends on the field: an empty list, or
nothing. -/
theorem of_none (h : ms.get? name = none) : ms.Reads name d blank a ↔ a = blank := by
  rw [Members.Reads, h]

/-- A member says what the decoder makes of its value. What is blank for the field does not count
any more. -/
theorem of_some (h : ms.get? name = some v) :
    ms.Reads name d blank a ↔ d.ofValue v = .ok a := by
  rw [Members.Reads, h]

/-- Only the member of the name matters. So members can be sorted, filtered or joined with others,
when this one stays. -/
theorem congr {ms' : Members} (h : ms.get? name = ms'.get? name) :
    ms.Reads name d blank a ↔ ms'.Reads name d blank a := by
  rw [Members.Reads, Members.Reads, h]

/-- A member says one thing only. Decoders are functions, so what is said is determined by the
members. -/
theorem unique (ha : ms.Reads name d blank a) (hb : ms.Reads name d blank b) : a = b := by
  cases h : ms.get? name with
  | none => rw [(of_none h).1 ha, (of_none h).1 hb]
  | some v =>
    have hab : Except.ok a = (Except.ok b : Except Mismatch α) :=
      ((of_some h).1 ha).symm.trans ((of_some h).1 hb)
    -- The decoder is a function, so both are its one result.
    cases hab
    rfl

end Members.Reads

/-- The member of a name is what `write` makes of `a`; without such a member `a` is `blank`. -/
def Members.Has (ms : Members) (name : String) (write : α → Value) (blank a : α) : Prop :=
  match ms.get? name with
  | none => a = blank
  | some v => v = write a

/-- Only the member of the name matters, as with `Reads`. What is written is found by name, too. -/
theorem Members.Has.congr {ms' : Members} {write : α → Value} {blank a : α}
    (h : ms.get? name = ms'.get? name) :
    ms.Has name write blank a ↔ ms'.Has name write blank a := by
  rw [Has, Has, h]

/-- A member that is there is what is written. It says nothing of a blank value, which may be
written or not. -/
theorem Members.Has.eq_write {write : α → Value} {blank a : α} (h : ms.Has name write blank a)
    (hv : ms.get? name = some v) : v = write a := by
  rw [Has, hv] at h
  exact h

/-- What is not left blank has a member. So a value can be dropped from a document only when it is
the blank one. -/
theorem Members.Has.get?_eq {write : α → Value} {blank a : α} (h : ms.Has name write blank a)
    (hne : a ≠ blank) : ms.get? name = some (write a) := by
  rw [Has] at h
  split at h
  · exact absurd h hne
  · rename_i v hv
    rw [hv, h]

/-- What a decoder reads that undoes `write` is what is there. It turns what devices are decoded
from into what their documents say. -/
theorem Members.reads_iff_has {d : Decoder α} {write : α → Value} {blank a : α}
    (h : ∀ v a, d.ofValue v = .ok a ↔ v = write a) :
    ms.Reads name d blank a ↔ ms.Has name write blank a := by
  rw [Reads, Has]
  cases ms.get? name with
  | none => exact Iff.rfl
  | some v => exact h v a

/-- Something is there unless the member of the name is nothing that is ever written. A missing
member leaves the field blank, and never stands in the way. -/
theorem Members.exists_has_iff {write : α → Value} (blank : α) :
    (∃ a, ms.Has name write blank a) ↔ ∀ v, ms.get? name = some v → ∃ a, v = write a := by
  simp only [Has]
  cases ms.get? name with
  | none => simp
  | some v => simp

/-! ### Fields -/

/-- A field of a table carries what `get` shows of a record: the field of the name `name` puts there
what `d` reads, any other field leaves it alone. -/
structure Field.Carries (f : Field σ) (name : String) (d : Decoder α) (get : σ → α) : Prop where
  fills : f.name = name → ∀ s v change, f.decoder.ofValue v = .ok change →
    d.ofValue v = .ok (get (change s))
  keeps : f.name ≠ name → ∀ s v change, f.decoder.ofValue v = .ok change →
    get (change s) = get s

namespace Field

variable {β : Type} {d : Decoder α} {get : σ → α}

/-- A field is set by what its decoder reads. The change of a field is nothing else, so two fields
with one decoder differ in what they set. -/
theorem of_decoder_eq_ok {set : α → σ → σ} {change : σ → σ} :
    (Field.of name d set).decoder.ofValue v = .ok change ↔
      ∃ a, d.ofValue v = .ok a ∧ set a = change :=
  except_map_eq_ok

/-- A field carries what `get` shows when it puts there what it reads, under the same name, and
does not touch it under another. -/
theorem of_carries {e : Decoder β} {set : β → σ → σ}
    (hfills : k = name → ∀ s v b, e.ofValue v = .ok b → d.ofValue v = .ok (get (set b s)))
    (hkeeps : k ≠ name → ∀ b s, get (set b s) = get s) : (Field.of k e set).Carries name d get where
  fills he s v change hv := by
    obtain ⟨b, hb, rfl⟩ := of_decoder_eq_ok.1 hv
    exact hfills he s v b hb
  keeps hne s v change hv := by
    obtain ⟨b, -, rfl⟩ := of_decoder_eq_ok.1 hv
    exact hkeeps hne b s

/-- A field does not touch what `get` shows of a record. -/
def LeavesAlone (f : Field σ) (get : σ → α) : Prop :=
  ∀ s v change, f.decoder.ofValue v = .ok change → get (change s) = get s

/-- A field leaves alone what setting it does not change. The condition is on the setter alone, and
is true by computation in each case. -/
theorem of_leavesAlone {e : Decoder β} {set : β → σ → σ} (h : ∀ b s, get (set b s) = get s) :
    (Field.of k e set).LeavesAlone get := by
  intro s v change hv
  obtain ⟨b, -, rfl⟩ := of_decoder_eq_ok.1 hv
  exact h b s

/-- A field of another name carries every part of what it leaves alone. -/
theorem LeavesAlone.carries {f : Field σ} {d : Decoder β} (h : f.LeavesAlone get)
    (hne : f.name ≠ name) (part : α → β) : f.Carries name d fun s => part (get s) where
  fills he := absurd he hne
  keeps _ s v change hv := by rw [h s v change hv]

/-- A field can be read from members that say something at its name. -/
theorem exists_of_reads {set : α → σ → σ} {blank a : α} (h : ms.Reads name d blank a) :
    ∀ v, ms.get? (Field.of name d set).name = some v →
      ∃ change, (Field.of name d set).decoder.ofValue v = .ok change := by
  intro v hv
  exact ⟨set a, of_decoder_eq_ok.2 ⟨a, (Members.Reads.of_some hv).1 h, rfl⟩⟩

end Field

/-- Whether a name is the name of a field. -/
def isField (fields : List (Field σ)) (name : String) : Bool := (fieldOf? fields name).isSome

/-- A name is the name of a field when some field has it. -/
theorem isField_iff {fields : List (Field σ)} :
    isField fields name = true ↔ ∃ f ∈ fields, f.name = name := by
  simp [isField, fieldOf?, List.find?_isSome]

/-- The field that is found under a name is one of the fields, and has this name. -/
theorem fieldOf?_eq_some {fields : List (Field σ)} {f : Field σ}
    (h : fieldOf? fields name = some f) : f ∈ fields ∧ f.name = name := by
  rw [fieldOf?] at h
  have hname := List.find?_some h
  exact ⟨List.mem_of_find?_eq_some h, of_decide_eq_true hname⟩

/-- A name under which a field is found is the name of a field. -/
theorem isField_of_fieldOf? {fields : List (Field σ)} {f : Field σ}
    (h : fieldOf? fields name = some f) : isField fields name = true := by
  rw [isField, h]
  rfl

/-! ### Taking members -/

namespace Partial

variable {fields : List (Field σ)} {p q : Partial σ} {d : Decoder α} {get : σ → α}

/-- A member that is taken is kept when it belongs to no field, and else read by its field. All that
is known of taking members, one or many, comes from these two cases. -/
theorem take_cases (h : p.take fields name v = .ok q) :
    (isField fields name = false ∧ q = p.keep name v) ∨
      ∃ f change, fieldOf? fields name = some f ∧ f.decoder.ofValue v = .ok change ∧
        q = p.set name change := by
  rw [take] at h
  -- A member that no field knows is kept. A field that has been set already refuses another member.
  cases hf : fieldOf? fields name with
  | none =>
    rw [hf] at h
    cases h
    refine .inl ⟨?_, rfl⟩
    rw [isField, hf]
    rfl
  | some f =>
    rw [hf] at h
    dsimp only at h
    split at h
    · cases h
    · obtain ⟨change, hchange, rfl⟩ := except_map_eq_ok.1 h
      exact .inr ⟨f, change, rfl, hchange, rfl⟩

/-- Members are taken one after the other, and the first of them must be taken before the rest. -/
theorem takeAll_cons (h : p.takeAll fields ((name, v) :: ms) = .ok q) :
    ∃ p', p.take fields name v = .ok p' ∧ p'.takeAll fields ms = .ok q := by
  rw [takeAll] at h
  exact except_bind_eq_ok.1 h

/-- The members that belong to no field are kept, in their order. They are what is left for the
decoder around a flattened record. -/
theorem takeAll_others (h : p.takeAll fields ms = .ok q) :
    q.others = p.others ++ ms.filter fun m => !isField fields m.1 := by
  induction ms generalizing p with
  | nil =>
    cases h
    simp
  | cons m ms ih =>
    obtain ⟨name, v⟩ := m
    obtain ⟨p', htake, hrest⟩ := takeAll_cons h
    rw [ih hrest]
    rcases take_cases htake with ⟨hno, rfl⟩ | ⟨f, change, hf, -, rfl⟩
    · simp [keep, hno]
    · simp [set, isField_of_fieldOf? hf]

/-- Members that are not read into a part of the record leave it alone. The induction is on the
members; the field of each is another one, or keeps the part. -/
theorem takeAll_keeps (hcarries : ∀ f ∈ fields, f.Carries name d get)
    (h : p.takeAll fields ms = .ok q) (hno : isField fields name = true → name ∉ ms.names) :
    get q.record = get p.record := by
  induction ms generalizing p with
  | nil =>
    cases h
    rfl
  | cons m ms ih =>
    obtain ⟨k, v⟩ := m
    obtain ⟨p', htake, hrest⟩ := takeAll_cons h
    rw [Members.names_cons] at hno
    -- The members behind leave the part alone by induction. The first is read into no field of it.
    rw [ih hrest fun hfield => fun hmem => hno hfield (List.mem_cons_of_mem _ hmem)]
    rcases take_cases htake with ⟨-, rfl⟩ | ⟨f, change, hf, hchange, rfl⟩
    · rfl
    · obtain ⟨hmem, hname⟩ := fieldOf?_eq_some hf
      have hne : f.name ≠ name := by
        intro he
        have hk : k = name := hname.symm.trans he
        exact hno (isField_iff.2 ⟨f, hmem, he⟩) (hk ▸ List.mem_cons_self)
      exact (hcarries f hmem).keeps hne p.record v change hchange

/-- A part of the record shows what the member of its name says. No member behind it has the same
name, so what it puts there stays. -/
theorem takeAll_fills (hcarries : ∀ f ∈ fields, f.Carries name d get)
    (h : p.takeAll fields ms = .ok q) (hnodup : ms.names.Nodup)
    (hfield : isField fields name = true) (hv : ms.get? name = some v) :
    d.ofValue v = .ok (get q.record) := by
  induction ms generalizing p with
  | nil => cases hv
  | cons m ms ih =>
    obtain ⟨k, w⟩ := m
    obtain ⟨p', htake, hrest⟩ := takeAll_cons h
    rw [Members.names_cons, List.nodup_cons] at hnodup
    rw [Members.get?_cons] at hv
    by_cases hk : k = name
    · rw [if_pos hk] at hv
      cases hv
      rw [hk] at htake hnodup
      -- The name does not come again, so what is filled in here stays until the end.
      rw [takeAll_keeps hcarries hrest fun _ => hnodup.1]
      rcases take_cases htake with ⟨hno, -⟩ | ⟨f, change, hf, hchange, rfl⟩
      · rw [hno] at hfield
        cases hfield
      · obtain ⟨hmem, hname⟩ := fieldOf?_eq_some hf
        exact (hcarries f hmem).fills hname p.record w change hchange
    · rw [if_neg hk] at hv
      exact ih hrest hnodup.2 hv

/-- Members are taken when no name is repeated and every field can be read. By induction on the
members, with the names that have been seen so far. -/
theorem exists_takeAll (hnodup : ms.names.Nodup) (hseen : ∀ n ∈ p.seen, n ∉ ms.names)
    (hread : ∀ f ∈ fields, ∀ v, ms.get? f.name = some v →
      ∃ change, f.decoder.ofValue v = .ok change) :
    ∃ q, p.takeAll fields ms = .ok q := by
  induction ms generalizing p with
  | nil => exact ⟨p, rfl⟩
  | cons m ms ih =>
    obtain ⟨k, v⟩ := m
    rw [Members.names_cons, List.nodup_cons] at hnodup
    have hread' : ∀ f ∈ fields, ∀ v, Members.get? f.name ms = some v →
        ∃ change, f.decoder.ofValue v = .ok change := by
      intro f hf w hw
      -- The first member is not the one that is found behind it, as its name is not repeated.
      have hne : k ≠ f.name := by
        intro he
        have hmem : f.name ∈ Members.names ms :=
          Members.mem_names_of_mem (Members.mem_of_get? hw)
        rw [← he] at hmem
        exact hnodup.1 hmem
      exact hread f hf w (by rw [Members.get?_cons, if_neg hne, hw])
    have hseen' : ∀ n ∈ p.seen, n ∉ Members.names ms := fun n hn hmem =>
      hseen n hn (List.mem_cons_of_mem _ hmem)
    rw [takeAll, take]
    cases hf : fieldOf? fields k with
    -- A member that belongs to no field can always be kept.
    | none => exact ih hnodup.2 hseen' hread'
    | some f =>
      obtain ⟨hmem, hname⟩ := fieldOf?_eq_some hf
      obtain ⟨change, hchange⟩ := hread f hmem v (by rw [Members.get?_cons, if_pos hname.symm])
      -- The field is new, so it is not refused as a duplicate.
      have hnew : k ∉ p.seen := fun hk => hseen k hk List.mem_cons_self
      have hset : ∀ n ∈ (p.set k change).seen, n ∉ Members.names ms := by
        intro n hn
        rcases List.mem_cons.1 hn with rfl | hn
        · exact hnodup.1
        · exact hseen' n hn
      obtain ⟨q, hq⟩ := ih hnodup.2 hset hread'
      refine ⟨q, ?_⟩
      rw [← hq]
      simp [hnew, hchange]

end Partial

/-! ### Records -/

namespace Record

variable {r : Record σ} {s : σ} {others : Members} {d : Decoder α} {get : σ → α}

/-- The names of the fields of a record, its own and the shared ones. -/
def hasField (r : Record σ) (name : String) : Bool := isField r.own name || isField r.shared name

/-- A record takes its own fields first, and the shared ones from what is left over. -/
theorem ofMembers_eq_ok (h : r.ofMembers ms = .ok (s, others)) :
    ∃ p q : Partial σ, Partial.takeAll r.own (.start r.blank) ms = .ok p ∧
      Partial.takeAll r.shared (.start p.record) p.others = .ok q ∧
      q.record = s ∧ q.others = others := by
  obtain ⟨p, hp, h⟩ := except_bind_eq_ok.1 h
  obtain ⟨q, hq, h⟩ := except_bind_eq_ok.1 h
  cases h
  exact ⟨p, q, hp, hq, rfl, rfl⟩

/-- What is left over are the members that belong to no field, neither of its own nor shared. -/
theorem ofMembers_others (h : r.ofMembers ms = .ok (s, others)) :
    others = ms.filter fun m => !r.hasField m.1 := by
  obtain ⟨p, q, hp, hq, -, rfl⟩ := ofMembers_eq_ok h
  rw [Partial.takeAll_others hq, Partial.takeAll_others hp]
  simp only [Partial.start, List.nil_append, List.filter_filter, hasField, Bool.not_or]
  congr 1
  funext m
  rw [Bool.and_comm]

/-- A decoded record holds in every field what the member of the field's name says. The name is that
of an own field, or of a shared one that is read from what the own fields leave over. -/
theorem ofMembers_reads (h : r.ofMembers ms = .ok (s, others)) (hnodup : ms.names.Nodup)
    (hname : r.hasField name = true) (hown : ∀ f ∈ r.own, f.Carries name d get)
    (hshared : ∀ f ∈ r.shared, f.Carries name d get) :
    ms.Reads name d (get r.blank) (get s) := by
  obtain ⟨p, q, hp, hq, rfl, -⟩ := ofMembers_eq_ok h
  have hothers : p.others = ms.filter fun m => !isField r.own m.1 := Partial.takeAll_others hp
  have hsub : List.Sublist p.others.names ms.names := by
    rw [hothers]
    exact List.filter_sublist.map _
  have hget : p.others.get? name = if isField r.own name then none else ms.get? name := by
    rw [hothers, Members.get?_filter fun n => !isField r.own n]
    cases isField r.own name <;> rfl
  -- Without a member of the name both passes leave the part alone. With one, the pass whose field
  -- has the name fills it in, and the shared fields see only what the own fields have left over.
  cases hv : ms.get? name with
  | none =>
    have hno : name ∉ ms.names := Members.get?_eq_none_iff.1 hv
    rw [Members.Reads.of_none hv, Partial.takeAll_keeps hshared hq fun _ hm => hno (hsub.mem hm)]
    exact Partial.takeAll_keeps hown hp fun _ => hno
  | some v =>
    rw [Members.Reads.of_some hv]
    cases hfield : isField r.own name with
    | true =>
      rw [hfield, if_pos rfl, Members.get?_eq_none_iff] at hget
      rw [Partial.takeAll_keeps hshared hq fun _ => hget]
      show d.ofValue v = .ok (get p.record)
      exact Partial.takeAll_fills hown hp hnodup hfield hv
    | false =>
      rw [hfield, if_neg Bool.false_ne_true, hv] at hget
      rw [hasField, hfield, Bool.false_or] at hname
      exact Partial.takeAll_fills hshared hq (hnodup.sublist hsub) hname hget

/-- Decoding succeeds when no name is repeated and the member of every field can be read. No member
has to be there, since fields that are needed are checked afterwards. -/
theorem exists_ofMembers (hnodup : ms.names.Nodup)
    (hown : ∀ f ∈ r.own, ∀ v, ms.get? f.name = some v → ∃ change, f.decoder.ofValue v = .ok change)
    (hshared : ∀ f ∈ r.shared, ∀ v, ms.get? f.name = some v →
      ∃ change, f.decoder.ofValue v = .ok change) :
    ∃ s others, r.ofMembers ms = .ok (s, others) := by
  obtain ⟨p, hp⟩ :=
    Partial.exists_takeAll (p := .start r.blank) hnodup (fun n hn => by cases hn) hown
  have hothers : p.others = ms.filter fun m => !isField r.own m.1 := Partial.takeAll_others hp
  have hnodup' : p.others.names.Nodup := by
    rw [hothers]
    exact hnodup.sublist (List.filter_sublist.map _)
  -- What the own fields have left over can be read as before.
  have hread : ∀ f ∈ r.shared, ∀ v, p.others.get? f.name = some v →
      ∃ change, f.decoder.ofValue v = .ok change := by
    intro f hf v hv
    rw [hothers, Members.get?_filter fun n => !isField r.own n] at hv
    split at hv
    · exact hshared f hf v hv
    · cases hv
  obtain ⟨q, hq⟩ :=
    Partial.exists_takeAll (p := .start p.record) hnodup' (fun n hn => by cases hn) hread
  refine ⟨q.record, q.others, ?_⟩
  rw [ofMembers, hp, except_bind_ok, hq, except_bind_ok, except_pure]

/-- `Describe ms s` says what a table of fields makes of members: it holds of what is decoded, it
holds of one record only, and it makes every field readable. -/
structure Describes (r : Record σ) (Describe : Members → σ → Prop) : Prop where
  sound : ∀ ms s others, ms.names.Nodup → r.ofMembers ms = .ok (s, others) → Describe ms s
  unique : ∀ ms s t, Describe ms s → Describe ms t → s = t
  own : ∀ ms s, Describe ms s → ∀ f ∈ r.own, ∀ v, ms.get? f.name = some v →
    ∃ change, f.decoder.ofValue v = .ok change
  shared : ∀ ms s, Describe ms s → ∀ f ∈ r.shared, ∀ v, ms.get? f.name = some v →
    ∃ change, f.decoder.ofValue v = .ok change

variable {Describe : Members → σ → Prop}

/-- Members that describe a record are decoded as it. So `Describes` needs to be shown only once for
each kind of record, and decoding is never opened again. -/
theorem Describes.ofMembers (h : r.Describes Describe) (hnodup : ms.names.Nodup)
    (hs : Describe ms s) :
    r.ofMembers ms = .ok (s, ms.filter fun m => !r.hasField m.1) := by
  -- Something is decoded, it is described as well, and only one record is described.
  obtain ⟨t, others, ht⟩ := exists_ofMembers hnodup (h.own ms s hs) (h.shared ms s hs)
  have hst : t = s := h.unique ms t s (h.sound ms t others hnodup ht) hs
  rw [ht, ofMembers_others ht, hst]

/-- When no name is repeated, members are decoded as the record that they describe. -/
theorem Describes.ofMembers_eq_ok_iff (h : r.Describes Describe) (hnodup : ms.names.Nodup) :
    (r.ofMembers ms).map Prod.fst = .ok s ↔ Describe ms s := by
  rw [except_map_eq_ok]
  constructor
  · rintro ⟨⟨t, others⟩, ht, rfl⟩
    exact h.sound ms t others hnodup ht
  · exact fun hs => ⟨_, h.ofMembers hnodup hs, rfl⟩

/-- A record is decoded from the objects that describe it, when they are in normal form and so
repeat no name. -/
theorem Describes.decoder_eq_ok_iff (h : r.Describes Describe) (hv : v.IsNormal) :
    r.decoder.ofValue v = .ok s ↔ ∃ ms, v = .object ms ∧ Describe ms s := by
  cases v with
  | object ms =>
    refine (h.ofMembers_eq_ok_iff (Members.IsNormal.sorted hv).nodup_names).trans ?_
    simp
  | _ => simp [decoder]

end Record

end DeviceRegistry.Json
