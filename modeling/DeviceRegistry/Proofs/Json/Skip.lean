import DeviceRegistry.Proofs.Json.Lexeme
import DeviceRegistry.Proofs.Json.Written

/-!
# `DeviceRegistry.Proofs.Json.Skip`: what can be read can be passed over

A value that nobody asks for is passed over without being decoded, and however deep it is. Main
statements:

* `takesLevels_readDocument`: what is left of a text bounds the levels that can still be read.
* `skipEach_of_itemsRead`, `skipEach_of_membersRead`: arrays and objects, given their parts.
* `skipValue_of_readDocument`: a document that can be read can be passed over.
-/

set_option autoImplicit false

namespace DeviceRegistry.Json

variable {v : Value} {depth fuel : Nat} {c c₁ c' : Cursor} {first : Bool}

/-! ### Loops move forward -/

/-- Looking for the next item moves forward, or stays where it is at the bracket. Blanks and a comma
are what it may pass. -/
theorem left_le_of_nextItem {more : Bool} (h : nextItem first c = .ok (more, c')) :
    c'.left ≤ c.left := by
  have hblanks := c.left_skipBlanks_le
  cases more with
  | false =>
    obtain ⟨-, rfl⟩ := nextItem_eq_end_iff.1 h
    exact hblanks
  | true =>
    obtain ⟨-, -, hnext⟩ := nextItem_eq_item h
    cases first with
    | true => exact Nat.le_trans (Nat.le_of_eq (congrArg Cursor.left hnext)) hblanks
    | false =>
      obtain ⟨-, rfl⟩ := hnext
      exact Nat.le_trans (left_le_of_next (Cursor.left_skipBlanks_le _)) hblanks

/-- Looking for the next name moves forward. The name itself is read, and not only found, so it is
passed along with the comma and the blanks. -/
theorem left_le_of_nextName {o : Option String} (h : nextName first c = .ok (o, c')) :
    c'.left ≤ c.left := by
  have hblanks := c.left_skipBlanks_le
  cases o with
  | none =>
    obtain ⟨-, rfl⟩ := nextName_eq_end h
    exact hblanks
  | some name =>
    obtain ⟨-, -, c₁, hnext, -, hread⟩ := nextName_eq_name h
    have hname : c'.left ≤ c₁.left := left_le_of_next (left_le_of_readString hread)
    refine Nat.le_trans hname (Nat.le_trans ?_ hblanks)
    cases first with
    | true => exact Nat.le_of_eq (congrArg Cursor.left hnext)
    | false =>
      obtain ⟨-, rfl⟩ := hnext
      exact left_le_of_next (Cursor.left_skipBlanks_le _)

/-- Reading a colon moves forward, over the colon and over the blanks in front of it. -/
theorem left_le_of_readColon (h : readColon c = .ok ((), c')) : c'.left ≤ c.left := by
  unfold readColon at h
  dsimp only at h
  split at h
  · cases h
    exact Nat.le_trans (Cursor.left_next_le _) c.left_skipBlanks_le
  · cases h

/-! ### Levels take symbols -/

/-- A reader takes at least a symbol for every level of what it reads. -/
def TakesLevels (item : Reader Value) : Prop :=
  ∀ c v c', item c = .ok (v, c') → v.levels + c'.left ≤ c.left

variable {item value : Reader Value}

/-- Items take a symbol for every level of the deepest of them. The induction is on the items, of
which each one takes the symbols of its own levels. -/
theorem ItemsRead.takesLevels {vs : List Value} (h : ItemsRead item first c vs c')
    (hitem : TakesLevels item) : Value.itemLevels vs + c'.left ≤ c.left := by
  induction h with
  | nil hends =>
    rw [Value.itemLevels, Nat.zero_add]
    exact left_le_of_nextItem hends
  | cons hnext hread _ ih =>
    have hforward := left_le_of_nextItem hnext
    have hfirst := hitem _ _ _ hread
    rw [Value.itemLevels]
    omega

/-- Members take a symbol for every level of the deepest of their values. Names and colons take
more, which is not needed for the bound. -/
theorem MembersRead.takesLevels {ms : Members} (h : MembersRead value first c ms c')
    (hvalue : TakesLevels value) : Value.memberLevels ms + c'.left ≤ c.left := by
  induction h with
  | nil hends =>
    rw [Value.memberLevels, Nat.zero_add]
    exact left_le_of_nextName hends
  | cons hnext hread _ ih =>
    obtain ⟨c₃, hcolon, hv⟩ := behindColon_eq_ok hread
    have hforward := left_le_of_nextName hnext
    have hbehind := left_le_of_readColon hcolon
    have hfirst := hvalue _ _ _ hv
    rw [Value.memberLevels]
    omega

/-- Every level of a document takes a bracket or brace, so there are no more levels than symbols.
This is why the fuel of passing over is enough. -/
theorem takesLevels_readDocument : TakesLevels (readDocument depth) := by
  have hscalar : ∀ {c c' : Cursor} {v}, readScalar c.skipBlanks = .ok (v, c') →
      v.levels + c'.left ≤ c.left := by
    intro c c' v hread
    rw [(readScalar_isScalar hread).isNormal.2, Nat.zero_add]
    exact Nat.le_trans (left_le_of_readScalar hread) c.left_skipBlanks_le
  induction depth with
  | zero => exact fun c v c' h => hscalar (readDocument_zero_eq_ok_iff.1 h).2
  | succ depth ih =>
    intro c v c' h
    have hblanks := c.left_skipBlanks_le
    have hnext := c.skipBlanks.left_next
    -- A list or an object opens with a character of its own, which pays for its level.
    cases readDocument_succ_eq_ok_iff.1 h with
    | scalar _ hread => exact hscalar hread
    | @array c₁ items hopens _ hread =>
      have hpos := Cursor.left_pos_of_peek? hopens
      have hitems := hread.takesLevels ih
      have hclose := c₁.left_next_le
      rw [Value.levels]
      omega
    | @object c₁ ms hopens _ hread =>
      have hpos := Cursor.left_pos_of_peek? hopens
      have hmembers := hread.takesLevels ih
      have hclose := c₁.left_next_le
      rw [Value.levels]
      omega

/-! ### Arrays and objects -/

/-- Passing over an array ends behind its bracket. Reading stops in front of it, so the places
differ by one symbol. -/
theorem nextSkippedItem_of_end (h : nextItem first c = .ok (false, c')) :
    nextSkippedItem first c = .ok (false, c'.next) := by
  obtain ⟨hpeek, rfl⟩ := nextItem_eq_end_iff.1 h
  rw [nextSkippedItem]
  simp only [Cursor.atEnd_of_peek? hpeek, hpeek, Bool.false_eq_true, if_false, if_true]

/-- An item that is passed over may start with blanks, since passing over skips them only when it
comes to the item. So the places are the same up to blanks. -/
theorem nextSkippedItem_of_item (h : nextItem first c = .ok (true, c')) :
    ∃ c₁, nextSkippedItem first c = .ok (true, c₁) ∧ c₁.skipBlanks = c' := by
  obtain ⟨hclose, hend, hnext⟩ := nextItem_eq_item h
  rw [nextSkippedItem]
  simp only [hend, hclose, Bool.false_eq_true, if_false]
  cases first with
  | true =>
    rw [if_pos rfl] at hnext
    exact ⟨_, rfl, c.skipBlanks_skipBlanks.trans hnext.symm⟩
  | false =>
    obtain ⟨hcomma, rfl⟩ := hnext
    exact ⟨_, by rw [if_neg Bool.false_ne_true, if_pos hcomma], rfl⟩

/-- Passing over an object ends behind its brace. As with arrays, reading leaves the brace for
later. -/
theorem nextSkippedMember_of_end (h : nextName first c = .ok (none, c')) :
    nextSkippedMember first c = .ok (false, c'.next) := by
  obtain ⟨hpeek, rfl⟩ := nextName_eq_end h
  rw [nextSkippedMember]
  simp only [Cursor.atEnd_of_peek? hpeek, hpeek, Bool.false_eq_true, if_false, if_true]
  rfl

/-- A member whose name and colon can be read can be passed over up to its value. Passing over reads
the name as a string, too, so it asks for no less. -/
theorem nextSkippedMember_of_name {name : String} (h : nextName first c = .ok (some name, c₁))
    (hcolon : readColon c₁ = .ok ((), c')) : nextSkippedMember first c = .ok (true, c') := by
  obtain ⟨hclose, hend, c₂, hnext, hquote, hread⟩ := nextName_eq_name h
  have hskip := skipString_of_readString hread
  rw [nextSkippedMember]
  simp only [hend, hclose, Bool.false_eq_true, if_false]
  cases first with
  | true =>
    rw [if_pos rfl] at hnext
    rw [← hnext, if_pos rfl, except_bind_ok, if_pos hquote, hskip, except_bind_ok, hcolon]
    rfl
  | false =>
    obtain ⟨hcomma, rfl⟩ := hnext
    rw [if_neg Bool.false_ne_true, if_pos hcomma, except_bind_ok, if_pos hquote, hskip,
      except_bind_ok, hcolon]
    rfl

variable {skip : Cursor → Except Failure Cursor} {steps : Nat}

/-- An array whose items can be passed over can be passed over, in as many steps as it has items,
and one more. -/
theorem skipEach_of_itemsRead {vs : List Value} (h : ItemsRead item first c vs c')
    (hitem : ∀ v ∈ vs, ∀ c c', item c.skipBlanks = .ok (v, c') → skip c = .ok c')
    (hsteps : vs.length < steps) : skipEach nextSkippedItem skip steps first c = .ok c'.next := by
  induction h generalizing steps with
  | nil hends =>
    obtain ⟨steps, rfl⟩ := Nat.exists_eq_add_one_of_ne_zero (Nat.ne_zero_of_lt hsteps)
    rw [skipEach, nextSkippedItem_of_end hends]
  | @cons first c c₁ c₂ c' v vs hnext hread _ ih =>
    obtain ⟨steps, rfl⟩ := Nat.exists_eq_add_one_of_ne_zero (Nat.ne_zero_of_lt hsteps)
    obtain ⟨c₃, hskipped, rfl⟩ := nextSkippedItem_of_item hnext
    rw [skipEach, hskipped]
    dsimp only
    rw [hitem v List.mem_cons_self c₃ c₂ hread]
    exact ih (fun v hv => hitem v (List.mem_cons_of_mem _ hv)) (Nat.lt_of_succ_lt_succ hsteps)

/-- An object whose values can be passed over can be passed over. The induction is on the members
that were read, and each of them takes one of the steps. -/
theorem skipEach_of_membersRead {ms : Members} (h : MembersRead value first c ms c')
    (hvalue : ∀ m ∈ ms, ∀ c c', value c = .ok (m.2, c') → skip c = .ok c')
    (hsteps : ms.length < steps) : skipEach nextSkippedMember skip steps first c = .ok c'.next := by
  induction h generalizing steps with
  | nil hends =>
    obtain ⟨steps, rfl⟩ := Nat.exists_eq_add_one_of_ne_zero (Nat.ne_zero_of_lt hsteps)
    rw [skipEach, nextSkippedMember_of_end hends]
  | @cons first c c₁ c₂ c' name v ms hnext hread _ ih =>
    obtain ⟨steps, rfl⟩ := Nat.exists_eq_add_one_of_ne_zero (Nat.ne_zero_of_lt hsteps)
    obtain ⟨c₃, hcolon, hv⟩ := behindColon_eq_ok hread
    rw [skipEach, nextSkippedMember_of_name hnext hcolon]
    dsimp only
    rw [hvalue (name, v) List.mem_cons_self c₃ c₂ hv]
    exact ih (fun m hm => hvalue m (List.mem_cons_of_mem _ hm)) (Nat.lt_of_succ_lt_succ hsteps)

/-! ### Documents -/

/-- A document that can be read can be passed over in as many levels as it has. The induction is on
the depth of reading. -/
theorem skipLevels_of_readDocument (h : readDocument depth c = .ok (v, c'))
    (hlevels : v.levels < fuel) : skipLevels fuel c = .ok c' := by
  induction depth generalizing fuel c v c' with
  | zero =>
    obtain ⟨fuel, rfl⟩ := Nat.exists_eq_add_one_of_ne_zero (Nat.ne_zero_of_lt hlevels)
    exact skipLevels_of_readScalar (readDocument_zero_eq_ok_iff.1 h).2
  | succ depth ih =>
    obtain ⟨fuel, rfl⟩ := Nat.exists_eq_add_one_of_ne_zero (Nat.ne_zero_of_lt hlevels)
    have hnext : c.skipBlanks.next.rest.length ≤ c.skipBlanks.rest.length :=
      c.skipBlanks.left_next_le
    -- What is in a list or an object has fewer levels, so less fuel is enough for it.
    cases readDocument_succ_eq_ok_iff.1 h with
    | scalar _ hread => exact skipLevels_of_readScalar hread
    | @array c₁ items hopens hlength hread =>
      rw [Value.levels] at hlevels
      have hitems : ∀ v ∈ items, v.levels < fuel := fun v hv =>
        Nat.lt_of_le_of_lt (Value.itemLevels_le_iff.1 (Nat.le_refl _) v hv)
          (Nat.lt_of_succ_lt_succ hlevels)
      rw [skipLevels]
      simp only [hopens]
      refine skipEach_of_itemsRead hread (fun v hv c c' hc => ?_) (by omega)
      rw [readDocument_skipBlanks] at hc
      exact ih hc (hitems v hv)
    | @object c₁ ms hopens hlength hread =>
      rw [Value.levels] at hlevels
      have hvalues : ∀ m ∈ ms, m.2.levels < fuel := fun m hm =>
        Nat.lt_of_le_of_lt (Value.memberLevels_le_iff.1 (Nat.le_refl _) m hm)
          (Nat.lt_of_succ_lt_succ hlevels)
      rw [skipLevels]
      simp only [hopens]
      exact skipEach_of_membersRead hread (fun m hm c c' hc => ih hc (hvalues m hm)) (by omega)

/-- A document that can be read can be passed over, however deep it is. -/
theorem skipValue_of_readDocument (h : readDocument depth c = .ok (v, c')) :
    skipValue c = .ok c' := by
  have hlevels := takesLevels_readDocument c v c' h
  exact skipLevels_of_readDocument h
    (Nat.lt_succ_of_le (Nat.le_trans (Nat.le_add_right _ _) hlevels))

end DeviceRegistry.Json
