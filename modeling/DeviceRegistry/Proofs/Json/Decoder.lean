import DeviceRegistry.Json.Decoder
import DeviceRegistry.Proofs.Steps

/-!
# `DeviceRegistry.Proofs.Json.Decoder`: what the decoders accept

For each way to read a document, the documents that it accepts and what it makes of them:
`string_eq_ok`, `optional_eq_some`, `members_eq_ok`, `list_eq_ok` and `itemsOf_map`.
-/

set_option autoImplicit false

namespace DeviceRegistry.Json.Decoder

variable {α : Type} {v : Value}

/-- A scalar is read when there is something to pick from the value. -/
theorem scalar_eq_ok {expected : String} {pick : Value → Option α} {a : α} :
    (scalar expected pick).ofValue v = .ok a ↔ pick v = some a := by
  cases h : pick v <;> simp [scalar, h]

/-- The text of a value is there when the value is a string. -/
theorem asString?_eq_some {s : String} : v.asString? = some s ↔ v = .string s := by
  cases v <;> simp [Value.asString?]

/-- A string is read from a string only. Numbers and truth values are not turned into texts. -/
theorem string_eq_ok {s : String} : string.ofValue v = .ok s ↔ v = .string s := by
  rw [string, scalar_eq_ok, asString?_eq_some]

/-- An object is read as it is. No member is looked into, so extensions can hold anything. -/
theorem members_eq_ok {ms : Members} : members.ofValue v = .ok ms ↔ v = .object ms := by
  cases v <;> simp [members]

/-- Optional data that is there is read from another value than `null`. -/
theorem optional_eq_some {d : Decoder α} {a : α} :
    (optional d).ofValue v = .ok (some a) ↔ v ≠ .null ∧ d.ofValue v = .ok a := by
  cases v with
  | null => simp [optional]
  | _ => simp [optional, except_map_eq_ok]

/-- Optional data that is not there is read from `null` only. -/
theorem optional_eq_none {d : Decoder α} : (optional d).ofValue v = .ok none ↔ v = .null := by
  cases v with
  | null => simp [optional]
  | _ => simp [optional, except_map_eq_ok]

/-- A truth value is read from a truth value only. A text that says so is none, and neither is a
number. -/
theorem boolean_eq_ok {b : Bool} : boolean.ofValue v = .ok b ↔ v = .bool b := by
  rw [boolean, scalar_eq_ok]
  cases v <;> simp

/-- Optional data is written as `null` when it is not there. -/
def nullable (write : α → Value) : Option α → Value
  | none => .null
  | some a => write a

/-- Something is written as optional data when it is `null` or is written as the data itself. -/
theorem exists_nullable_iff {write : α → Value} :
    (∃ o, v = nullable write o) ↔ v = .null ∨ ∃ a, v = write a := by
  constructor
  · rintro ⟨o, rfl⟩
    cases o with
    | none => exact .inl rfl
    | some a => exact .inr ⟨a, rfl⟩
  · rintro (rfl | ⟨a, rfl⟩)
    · exact ⟨none, rfl⟩
    · exact ⟨some a, rfl⟩

/-- Optional data is read from what it is written as, when that holds of the data itself, which must
not look like `null`. -/
theorem optional_eq_ok_iff {d : Decoder α} {write : α → Value} {o : Option α}
    (h : ∀ v a, d.ofValue v = .ok a ↔ v = write a) (hwrite : ∀ a, write a ≠ .null) :
    (optional d).ofValue v = .ok o ↔ v = nullable write o := by
  cases o with
  | none => exact optional_eq_none
  | some a =>
    rw [optional_eq_some, h]
    constructor
    · exact fun hv => hv.2
    · rintro rfl
      exact ⟨hwrite a, rfl⟩

/-- Every item is read on its own, so a list is read when each of its items is. -/
theorem itemsOf_map {d : Decoder α} {f : α → Value} {as : List α}
    (h : ∀ a ∈ as, d.ofValue (f a) = .ok a) : itemsOf d (as.map f) = .ok as := by
  induction as with
  | nil => rfl
  | cons a as ih =>
    have ha : d.ofValue (f a) = .ok a := h a List.mem_cons_self
    have has : itemsOf d (as.map f) = .ok as := ih fun b hb => h b (List.mem_cons_of_mem _ hb)
    rw [List.map_cons, itemsOf, ha, except_bind_ok, has]
    rfl

/-- What is read from items is read from one of them. So what holds of every result of a decoder
holds of all that is read from an array with it. -/
theorem exists_of_itemsOf {d : Decoder α} {vs : List Value} {as : List α}
    (h : itemsOf d vs = .ok as) : ∀ a ∈ as, ∃ v ∈ vs, d.ofValue v = .ok a := by
  induction vs generalizing as with
  | nil =>
    cases h
    simp
  | cons v vs ih =>
    -- The first item was read, and so were the others.
    rw [itemsOf] at h
    obtain ⟨a, ha, h⟩ := except_bind_eq_ok.1 h
    obtain ⟨as, has, h⟩ := except_bind_eq_ok.1 h
    cases h
    intro b hb
    rcases List.mem_cons.1 hb with rfl | hb
    · exact ⟨v, List.mem_cons_self, ha⟩
    · obtain ⟨w, hw, hwb⟩ := ih has b hb
      exact ⟨w, List.mem_cons_of_mem _ hw, hwb⟩

/-- Every item is read as one of what is read: none is passed over. It is the other direction of the
lemma above, and finds the secret behind an object of secrets. -/
theorem exists_of_mem_items {d : Decoder α} {vs : List Value} {as : List α}
    (h : itemsOf d vs = .ok as) : ∀ v ∈ vs, ∃ a ∈ as, d.ofValue v = .ok a := by
  induction vs generalizing as with
  | nil =>
    intro v hv
    cases hv
  | cons v vs ih =>
    rw [itemsOf] at h
    obtain ⟨a, ha, h⟩ := except_bind_eq_ok.1 h
    obtain ⟨as, has, h⟩ := except_bind_eq_ok.1 h
    cases h
    intro w hw
    rcases List.mem_cons.1 hw with rfl | hw
    · exact ⟨a, List.mem_cons_self, ha⟩
    · obtain ⟨b, hb, hwb⟩ := ih has w hw
      exact ⟨b, List.mem_cons_of_mem _ hb, hwb⟩

/-- A list is read from an array, item by item. An item alone is not taken for a list of one. -/
theorem list_eq_ok {d : Decoder α} {as : List α} (h : (list d).ofValue v = .ok as) :
    ∃ vs, v = .array vs ∧ itemsOf d vs = .ok as := by
  cases v with
  | array vs => exact ⟨vs, rfl, h⟩
  | _ => cases h

/-- A list is read from the array of what its items are read from, and from no other. It is for
items that have one form only, such as names. -/
theorem list_eq_ok_iff {d : Decoder α} {write : α → Value} {as : List α}
    (h : ∀ v a, d.ofValue v = .ok a ↔ v = write a) :
    (list d).ofValue v = .ok as ↔ v = .array (as.map write) := by
  constructor
  · intro hv
    obtain ⟨vs, rfl, hitems⟩ := list_eq_ok hv
    congr 1
    -- The items have to be what is written for the results, one by one.
    induction vs generalizing as with
    | nil =>
      cases hitems
      rfl
    | cons v vs ih =>
      rw [itemsOf] at hitems
      obtain ⟨a, ha, hitems⟩ := except_bind_eq_ok.1 hitems
      obtain ⟨as, has, he⟩ := except_bind_eq_ok.1 hitems
      cases he
      rw [List.map_cons, (h v a).1 ha, ih has has]
  · rintro rfl
    exact itemsOf_map fun a _ => (h _ a).2 rfl

/-! ### Texts -/

section

variable {β : Type} {d : Decoder α} {depth : Nat} {c c' : Cursor}

/-- What is read from a text and turned into something else was read before. So a decoder behind a
conversion stops where the decoder itself stops. -/
theorem map_ofText_eq_ok_iff {f : α → β} {b : β} :
    (d.map f).ofText depth c = .ok (b, c') ↔ ∃ a, d.ofText depth c = .ok (a, c') ∧ f a = b := by
  show (d.ofText depth c).map (fun read => (f read.1, read.2)) = _ ↔ _
  rw [except_map_eq_ok]
  constructor
  · rintro ⟨⟨a, c₁⟩, hread, h⟩
    cases h
    exact ⟨a, hread, rfl⟩
  · rintro ⟨a, hread, rfl⟩
    exact ⟨(a, c'), hread, rfl⟩

/-- A further rule is asked of what is read from a text. Where it is broken, the place of the error
is that behind what was read. -/
theorem convert_ofText_eq_ok_iff {f : α → Except Mismatch β} {b : β} :
    (d.convert f).ofText depth c = .ok (b, c') ↔
      ∃ a, d.ofText depth c = .ok (a, c') ∧ f a = .ok b := by
  unfold Decoder.convert
  dsimp only
  rw [except_bind_eq_ok]
  constructor
  · rintro ⟨⟨a, c₁⟩, hread, h⟩
    dsimp only at h
    split at h
    · rename_i b' hb
      cases h
      exact ⟨a, hread, hb⟩
    · cases h
  · rintro ⟨a, hread, hb⟩
    refine ⟨(a, c'), hread, ?_⟩
    simp only [hb]

end

end DeviceRegistry.Json.Decoder
