import DeviceRegistry.Proofs.Json.Reader

/-!
# `DeviceRegistry.Proofs.Json.Loops`: items and members as they stand in a text

The loops of the format count down from the length of a text. `ItemsRead` and `MembersRead` say what
a loop reads without the count, one constructor for each step. Main statements:

* `itemsFrom_eq_ok_iff`: a loop reads items when they are there and are not too many.
* `membersFrom_keepMember_eq_ok_iff`: so does a loop that keeps all members.
* `closing_eq_ok_iff`: an array or object is read when its bracket or brace follows its content.
-/

set_option autoImplicit false

namespace DeviceRegistry.Json

variable {α β : Type} {c c₁ c' : Cursor} {first : Bool} {fuel : Nat} {name : String}

/-! ### Cursors -/

/-- A symbol is seen where the rest of a text starts with it. -/
theorem Cursor.rest_of_peek? {x : Char} (h : c.peek? = some x) :
    ∃ r, c.rest = .char x :: r := by
  unfold Cursor.peek? at h
  split at h
  · rename_i y r hrest
    cases h
    exact ⟨r, hrest⟩
  · cases h

/-- Where a symbol is seen the text does not end. Some readers ask for the end first and for the
symbol afterwards. -/
theorem Cursor.atEnd_of_peek? {x : Char} (h : c.peek? = some x) : c.atEnd = false := by
  obtain ⟨r, hrest⟩ := rest_of_peek? h
  rw [atEnd, hrest]
  rfl

/-- Passing over blanks stops at something that is no blank, so going on passes over nothing. -/
theorem skipBlanksIn_skipBlanks (rest : List Text.Symbol) (line column : Nat) :
    (skipBlanksIn rest line column).skipBlanks = skipBlanksIn rest line column := by
  fun_induction skipBlanksIn rest line column with
  | case1 _ _ _ ih | case2 _ _ _ ih | case3 _ _ _ ih | case4 _ _ _ ih => exact ih
  | case5 rest line column hline hspace htab hreturn =>
    show skipBlanksIn rest line column = _
    rw [skipBlanksIn] <;> assumption

/-- Behind blanks there are no more of them. So a reader may skip blanks that its caller has skipped
already. -/
theorem Cursor.skipBlanks_skipBlanks (c : Cursor) : c.skipBlanks.skipBlanks = c.skipBlanks :=
  skipBlanksIn_skipBlanks c.rest c.line c.column

/-! ### Items -/

/-- The items that `item` reads from a cursor on, up to where the array ends. -/
inductive ItemsRead (item : Reader α) : (first : Bool) → Cursor → List α → Cursor → Prop
  | nil {first : Bool} {c c' : Cursor} (ends : nextItem first c = .ok (false, c')) :
    ItemsRead item first c [] c'
  | cons {first : Bool} {c c₁ c₂ c' : Cursor} {a : α} {as : List α}
    (next : nextItem first c = .ok (true, c₁)) (reads : item c₁ = .ok (a, c₂))
    (rest : ItemsRead item false c₂ as c') : ItemsRead item first c (a :: as) c'

/-- A loop reads the items that are there, when they are not too many. The induction is on the fuel,
of which each item uses one. -/
theorem itemsFrom_eq_ok_iff {item : Reader α} {as : List α} :
    itemsFrom item fuel first c = .ok (as, c') ↔
      as.length < fuel ∧ ItemsRead item first c as c' := by
  induction fuel generalizing first c as with
  | zero => simp [itemsFrom, failAhead]
  | succ fuel ih =>
    rw [itemsFrom]
    -- The loop and the relation make the same choices: to end, or to go on with an item.
    constructor
    · intro h
      split at h
      · cases h
      · rename_i c₁ hnext
        cases h
        exact ⟨Nat.zero_lt_succ _, .nil hnext⟩
      · rename_i c₁ hnext
        split at h
        · cases h
        · rename_i a c₂ hitem
          split at h
          · cases h
          · rename_i rest c₃ hrest
            cases h
            obtain ⟨hlength, hread⟩ := ih.1 hrest
            exact ⟨Nat.succ_lt_succ hlength, .cons hnext hitem hread⟩
    · rintro ⟨hlength, hread⟩
      cases hread with
      | nil hnext =>
        rw [hnext]
      | cons hnext hitem hrest =>
        rw [hnext]
        dsimp only
        rw [hitem]
        dsimp only
        rw [ih.2 ⟨Nat.lt_of_succ_lt_succ hlength, hrest⟩]

/-- Readers that read the same items read the same arrays. It is how what reads documents is
compared with what reads values. -/
theorem ItemsRead.imp {item : Reader α} {item' : Reader β} {as : List α} {f : α → β}
    (h : ItemsRead item first c as c')
    (hitem : ∀ a ∈ as, ∀ c c', item c = .ok (a, c') → item' c = .ok (f a, c')) :
    ItemsRead item' first c (as.map f) c' := by
  induction h with
  | nil hends => exact .nil hends
  | cons hnext hread _ ih =>
    exact .cons hnext (hitem _ List.mem_cons_self _ _ hread)
      (ih fun a ha => hitem a (List.mem_cons_of_mem _ ha))

/-- What every item that is read satisfies, all items of an array satisfy. -/
theorem ItemsRead.forall {item : Reader α} {as : List α} {P : α → Prop}
    (h : ItemsRead item first c as c') (hitem : ∀ c a c', item c = .ok (a, c') → P a) :
    ∀ a ∈ as, P a := by
  induction h with
  | nil _ => exact fun a ha => nomatch ha
  | cons _ hread _ ih => exact List.forall_mem_cons.2 ⟨hitem _ _ _ hread, ih⟩

/-! ### Members -/

/-- The members that are there from a cursor on, as `value` reads what stands behind their colons,
up to where the object ends. -/
inductive MembersRead (value : Reader α) :
    (first : Bool) → Cursor → List (String × α) → Cursor → Prop
  | nil {first : Bool} {c c' : Cursor} (ends : nextName first c = .ok (none, c')) :
    MembersRead value first c [] c'
  | cons {first : Bool} {c c₁ c₂ c' : Cursor} {name : String} {a : α} {ms : List (String × α)}
    (next : nextName first c = .ok (some name, c₁)) (reads : behindColon value c₁ = .ok (a, c₂))
    (rest : MembersRead value false c₂ ms c') : MembersRead value first c ((name, a) :: ms) c'

/-- Readers that read the same values read the same objects. The second one may turn each value into
something else, and only has to agree on the values that are there. -/
theorem MembersRead.imp {value : Reader α} {value' : Reader β} {ms : List (String × α)} {f : α → β}
    (h : MembersRead value first c ms c')
    (hvalue : ∀ m ∈ ms, ∀ c c', value c = .ok (m.2, c') → value' c = .ok (f m.2, c')) :
    MembersRead value' first c (ms.map fun m => (m.1, f m.2)) c' := by
  induction h with
  | nil hends => exact .nil hends
  | @cons first c c₁ c₂ c' name a ms hnext hread _ ih =>
    refine .cons hnext ?_ (ih fun m hm => hvalue m (List.mem_cons_of_mem _ hm))
    unfold behindColon at hread ⊢
    cases hcolon : readColon c₁ with
    | error e =>
      rw [hcolon] at hread
      cases hread
    | ok behind =>
      rw [hcolon] at hread
      exact hvalue (name, a) List.mem_cons_self _ _ hread

/-- What every value that is read satisfies, all values of an object satisfy. -/
theorem MembersRead.forall {value : Reader α} {ms : List (String × α)} {P : α → Prop}
    (h : MembersRead value first c ms c') (hvalue : ∀ c a c', value c = .ok (a, c') → P a) :
    ∀ m ∈ ms, P m.2 := by
  induction h with
  | nil _ => exact fun m hm => nomatch hm
  | cons _ hread _ ih =>
    obtain ⟨c₁, -, hread⟩ := behindColon_eq_ok hread
    exact List.forall_mem_cons.2 ⟨hvalue _ _ _ hread, ih⟩

/-- Reads a member behind its name and puts it behind others. -/
def keepMember (value : Reader α) (ms : List (String × α)) (name : String) :
    Reader (List (String × α)) := fun c =>
  (behindColon value c).map fun (a, c) => (ms ++ [(name, a)], c)

/-- A loop that keeps all members reads those that are there, when they are not too many. The
members that were kept before stand in front of them. -/
theorem membersFrom_keepMember_eq_ok_iff {value : Reader α} {before ms : List (String × α)} :
    membersFrom (keepMember value) fuel first before c = .ok (ms, c') ↔
      ∃ rest, ms = before ++ rest ∧ rest.length < fuel ∧ MembersRead value first c rest c' := by
  -- From the loop the induction is on its fuel, from the relation on the members that it has.
  constructor
  · intro h
    induction fuel generalizing first c before with
    | zero => cases h
    | succ fuel ih =>
      rw [membersFrom] at h
      split at h
      · cases h
      · rename_i c₁ hnext
        cases h
        exact ⟨[], (List.append_nil _).symm, Nat.zero_lt_succ _, .nil hnext⟩
      · rename_i name c₁ hnext
        split at h
        · cases h
        · rename_i ms₁ c₂ hmember
          obtain ⟨⟨a, c₃⟩, hread, he⟩ := except_map_eq_ok.1 hmember
          cases he
          obtain ⟨rest, rfl, hlength, hrest⟩ := ih h
          exact ⟨(name, a) :: rest, List.append_assoc _ _ _, Nat.succ_lt_succ hlength,
            .cons hnext hread hrest⟩
  · rintro ⟨rest, rfl, hlength, hread⟩
    induction hread generalizing fuel before with
    | nil hends =>
      obtain ⟨fuel, rfl⟩ := Nat.exists_eq_add_one_of_ne_zero (Nat.ne_zero_of_lt hlength)
      rw [membersFrom, hends, List.append_nil]
    | @cons first c c₁ c₂ c' name a rest hnext hread _ ih =>
      obtain ⟨fuel, rfl⟩ := Nat.exists_eq_add_one_of_ne_zero (Nat.ne_zero_of_lt hlength)
      have hkeep : keepMember value before name c₁ = .ok (before ++ [(name, a)], c₂) := by
        rw [keepMember, hread]
        rfl
      have hrest : membersFrom (keepMember value) fuel false (before ++ [(name, a)]) c₂ =
          .ok (before ++ [(name, a)] ++ rest, c') := ih (Nat.lt_of_succ_lt_succ hlength)
      rw [List.append_assoc, List.singleton_append] at hrest
      rw [membersFrom, hnext]
      dsimp only
      rw [hkeep]
      exact hrest

/-! ### Ends -/

/-- The end of an array is its bracket, behind blanks. In any other place the array is not at its
end, and this is an error. -/
theorem endList_eq_none_iff :
    endList c = (c', none) ↔ c.skipBlanks.peek? = some ']' ∧ c' = c.skipBlanks.next := by
  unfold endList
  dsimp only
  split
  · rename_i hpeek
    simp [hpeek, eq_comm]
  · rename_i hpeek
    simp [hpeek]
  · rename_i hclose hcomma
    exact ⟨fun h => by simp at h, fun h => absurd h.1 hclose⟩

/-- The end of an object is its brace, behind blanks. Nothing else closes it, as with arrays. -/
theorem endObject_eq_none_iff :
    endObject c = (c', none) ↔ c.skipBlanks.peek? = some '\x7d' ∧ c' = c.skipBlanks.next := by
  unfold endObject
  dsimp only
  split
  · rename_i hpeek
    simp [hpeek, eq_comm]
  · rename_i hpeek
    simp [hpeek]
  · rename_i hclose hcomma
    exact ⟨fun h => by simp at h, fun h => absurd h.1 hclose⟩

/-- An array or object is read when its content is and the end follows. An error in the content
comes first. -/
theorem closing_eq_ok_iff {close : Cursor → Cursor × Option Malformed}
    {content : Except Failure (α × Cursor)} {a : α} :
    closing close content = .ok (a, c') ↔ ∃ c₁, content = .ok (a, c₁) ∧ close c₁ = (c', none) := by
  -- A failure of the content stays one, and a result is one only when the bracket closes.
  cases content with
  | error e =>
    cases e with
    | placed e => simp [closing]
    | unplaced m c => simp [closing, misfit]
  | ok read =>
    obtain ⟨b, c₁⟩ := read
    unfold closing
    dsimp only
    split
    · rename_i c₂ hclose
      simp only [Except.ok.injEq, Prod.mk.injEq]
      constructor
      · rintro ⟨rfl, rfl⟩
        exact ⟨c₁, ⟨rfl, rfl⟩, hclose⟩
      · rintro ⟨c₃, ⟨rfl, rfl⟩, hclose'⟩
        rw [hclose] at hclose'
        cases hclose'
        exact ⟨rfl, rfl⟩
    · rename_i c₂ fault hclose
      simp only [failAhead, reduceCtorEq, Except.ok.injEq, Prod.mk.injEq, false_iff, not_exists,
        not_and]
      rintro c₃ ⟨-, rfl⟩ hclose'
      rw [hclose] at hclose'
      cases hclose'

/-- An array ends at its bracket, whether items have been read or not. A comma in front of it is an
error. -/
theorem nextItem_eq_end_iff :
    nextItem first c = .ok (false, c') ↔ c.skipBlanks.peek? = some ']' ∧ c' = c.skipBlanks := by
  unfold nextItem
  dsimp only
  by_cases hend : c.skipBlanks.atEnd = true
  · have hpeek : c.skipBlanks.peek? ≠ some ']' := by
      intro h
      rw [Cursor.atEnd_of_peek? h] at hend
      cases hend
    simp [hend, failAhead, hpeek]
  · by_cases hclose : c.skipBlanks.peek? = some ']'
    · simp [hend, hclose, eq_comm]
    · simp only [hend, hclose, if_false, false_and, iff_false]
      repeat' split
      all_goals simp [failAhead]

/-- Behind the first item of an array the others follow a comma. So the place where an item starts
is told by whether it is the first one, and by where the last one ended. -/
theorem nextItem_eq_item (h : nextItem first c = .ok (true, c')) :
    c.skipBlanks.peek? ≠ some ']' ∧ c.skipBlanks.atEnd = false ∧
      (if first then c' = c.skipBlanks
      else c.skipBlanks.peek? = some ',' ∧ c' = c.skipBlanks.next.skipBlanks) := by
  unfold nextItem at h
  dsimp only at h
  -- Behind the first item there must be a comma, and something else than the bracket behind that.
  split at h
  · cases h
  · rename_i hend
    split at h
    · cases h
    · rename_i hclose
      refine ⟨hclose, by simpa using hend, ?_⟩
      split at h
      · rename_i hfirst
        cases h
        rw [if_pos hfirst]
      · rename_i hfirst
        rw [if_neg hfirst]
        split at h
        · rename_i hcomma
          split at h
          · cases h
          · split at h
            · cases h
            · cases h
              exact ⟨hcomma, rfl⟩
        · cases h

/-- A name is read as a name or not at all. -/
theorem readName_ne_none : readName c ≠ .ok (none, c') := by
  unfold readName
  split
  · split <;> simp
  · simp [failAhead]
  · simp [failAhead]

/-- An object ends at its brace, as an array ends at its bracket: behind blanks, whether members
have been read or not, and with no comma in front. -/
theorem nextName_eq_end (h : nextName first c = .ok (none, c')) :
    c.skipBlanks.peek? = some '\x7d' ∧ c' = c.skipBlanks := by
  unfold nextName at h
  dsimp only at h
  split at h
  · cases h
  · split at h
    · rename_i hclose
      cases h
      exact ⟨hclose, rfl⟩
    · split at h
      · exact absurd h readName_ne_none
      · split at h
        · exact absurd h readName_ne_none
        · cases h

/-- A name is a string, so it has quotes around it and is read like every other string. There is no
shorter way to write a name. -/
theorem readName_eq_some (h : readName c = .ok (some name, c')) :
    c.peek? = some '"' ∧ readString c.next = .ok (name, c') := by
  unfold readName at h
  split at h
  · rename_i hquote
    refine ⟨hquote, ?_⟩
    split at h
    · rename_i s c₁ hread
      cases h
      exact hread
    · cases h
  · cases h
  · cases h

/-- Behind the first member of an object the names of the others follow a comma. It says of names
what the lemma on items says of items, and that they are strings. -/
theorem nextName_eq_name (h : nextName first c = .ok (some name, c')) :
    c.skipBlanks.peek? ≠ some '\x7d' ∧ c.skipBlanks.atEnd = false ∧
      ∃ c₁, (if first then c₁ = c.skipBlanks
        else c.skipBlanks.peek? = some ',' ∧ c₁ = c.skipBlanks.next.skipBlanks) ∧
        c₁.peek? = some '"' ∧ readString c₁.next = .ok (name, c') := by
  unfold nextName at h
  dsimp only at h
  -- As for an item, but what follows must be a quote, and the name is read as well.
  split at h
  · cases h
  · rename_i hend
    split at h
    · cases h
    · rename_i hclose
      refine ⟨hclose, by simpa using hend, ?_⟩
      split at h
      · rename_i hfirst
        exact ⟨_, by rw [if_pos hfirst], readName_eq_some h⟩
      · rename_i hfirst
        split at h
        · rename_i hcomma
          refine ⟨c.skipBlanks.next.skipBlanks, ?_, readName_eq_some h⟩
          rw [if_neg hfirst]
          exact ⟨hcomma, rfl⟩
        · cases h

/-- Items end at a bracket. By induction on the items, of which the last is followed by it. -/
theorem ItemsRead.endList {item : Reader α} {as : List α} (h : ItemsRead item first c as c') :
    endList c' = (c'.next, none) := by
  induction h with
  | nil hends =>
    obtain ⟨hpeek, rfl⟩ := nextItem_eq_end_iff.1 hends
    rw [endList_eq_none_iff, Cursor.skipBlanks_skipBlanks]
    exact ⟨hpeek, rfl⟩
  | cons _ _ _ ih => exact ih

/-- Members end at a brace, in the same way. What was read up to there does not matter. -/
theorem MembersRead.endObject {value : Reader α} {ms : List (String × α)}
    (h : MembersRead value first c ms c') : endObject c' = (c'.next, none) := by
  induction h with
  | nil hends =>
    obtain ⟨hpeek, rfl⟩ := nextName_eq_end hends
    rw [endObject_eq_none_iff, Cursor.skipBlanks_skipBlanks]
    exact ⟨hpeek, rfl⟩
  | cons _ _ _ ih => exact ih

end DeviceRegistry.Json
