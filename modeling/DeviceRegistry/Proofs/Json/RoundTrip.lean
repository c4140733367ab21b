import DeviceRegistry.Proofs.Json.Token
import DeviceRegistry.Proofs.Json.Written
import DeviceRegistry.Proofs.Text.Utf8

/-!
# `DeviceRegistry.Proofs.Json.RoundTrip`: documents are read back from their text

A document is read back from what the printers write for it, when all its numbers are whole and it
is not nested too deep. The printers differ in where they put blanks, so what they write is taken
together: `LaidOut` says that a text has the tokens of a document, with blanks where they may stand.
Main statements:

* `laidOut_chars`, `laidOut_prettyChars`: both printers lay out a document.
* `LaidOut.readsBack`: what is laid out is read back, by induction on how it is laid out.
* `readAll_of_laidOut`, `ofBytes_of_laidOut`, `ofBytes_render`: whole texts.
-/

set_option autoImplicit false

namespace DeviceRegistry.Json

open DeviceRegistry.Text (Symbol)

/-! ### Documents that can be read back -/

mutual

/-- All numbers of a document are whole. -/
def Value.IsWhole : Value → Prop
  | .number (.whole _ _) => True
  | .number (.binary _) => False
  | .array items => Value.AllWhole items
  | .object members => Value.MembersWhole members
  | _ => True

/-- All numbers of the items of an array are whole. -/
def Value.AllWhole : List Value → Prop
  | [] => True
  | v :: r => v.IsWhole ∧ Value.AllWhole r

/-- All numbers of the values of an object are whole. -/
def Value.MembersWhole : List (String × Value) → Prop
  | [] => True
  | (_, v) :: r => v.IsWhole ∧ Value.MembersWhole r

end

/-- An array is whole when its items are. The definition is a recursion on items, and this states it
by membership. -/
theorem Value.isWhole_array {items : List Value} :
    (Value.array items).IsWhole ↔ ∀ v ∈ items, v.IsWhole := by
  rw [Value.IsWhole]
  induction items with
  | nil => simp [Value.AllWhole]
  | cons v items ih => simp [Value.AllWhole, ih]

/-- An object is whole when its values are. Names are texts, and those are written exactly anyway.
-/
theorem Value.isWhole_object {ms : Members} :
    (Value.object ms).IsWhole ↔ ∀ m ∈ ms, m.2.IsWhole := by
  rw [Value.IsWhole]
  induction ms with
  | nil => simp [Value.MembersWhole]
  | cons m ms ih => simp [Value.MembersWhole, ih]

/-- A reader reads some characters as something, when what follows does not go on with them. -/
def ReadsBack {α : Type} (reader : Reader α) (cs : List Char) (a : α) : Prop :=
  ∀ (c : Cursor) (r : List Symbol), c.rest = cs.map .char ++ r → Ends r →
    ∃ c', reader c = .ok (a, c') ∧ c'.rest = r

variable {α : Type} {v : Value} {ms : Members} {depth : Nat} {c : Cursor} {r : List Symbol}
  {x : Char} {name : String} {cs gap close : List Char}

/-- Nothing goes on with a token where nothing is left. It is the case of a document that is the
whole text. -/
theorem ends_nil : Ends [] := by
  intro s r' h
  cases h

/-- Nor does what stands behind an item or member: a comma, a bracket, a brace, or the gap in front
of one. -/
theorem ends_cons (hx : x ∈ [',', ']', '\x7d', '\n', ' ']) : Ends (.char x :: r) := by
  intro s r' h
  cases h
  simpa using hx

/-- No document starts with a blank or with the end of an array or object. -/
def StartsValue (x : Char) : Prop := x ∉ ['\n', ' ', '\t', '\r', ']', '\x7d']

instance (x : Char) : Decidable (StartsValue x) := inferInstanceAs (Decidable (¬ _))

/-- What is written for a document starts like one, and only an array or object with a bracket or
brace. So a reader knows from the first character what it is going to read. -/
theorem Value.exists_chars (hv : v.IsWhole) :
    ∃ x t, v.chars = x :: t ∧ StartsValue x ∧ (v.IsScalar → x ∉ ['[', '\x7b']) := by
  cases v with
  | null => exact ⟨_, _, rfl, by decide, fun _ => by decide⟩
  | bool b => cases b <;> exact ⟨_, _, rfl, by decide, fun _ => by decide⟩
  | number n =>
    cases n with
    | whole k hk =>
      obtain ⟨x, t, hcons, hstarts, -⟩ := @exists_toList_text k hk
      -- A number starts with a digit or a sign, which none of the characters in question is.
      have hnot : ∀ l : List Char, l.all (fun y => !startsNumber y) = true → x ∉ l := by
        intro l hl hmem
        have hx := List.all_eq_true.1 hl x hmem
        rw [hstarts] at hx
        cases hx
      exact ⟨x, t, hcons, hnot _ rfl, fun _ => hnot _ rfl⟩
    | binary b => cases hv
  | string s => exact ⟨_, _, rfl, by decide, fun _ => by decide⟩
  | array items => exact ⟨_, _, rfl, by decide, nofun⟩
  | object ms => exact ⟨_, _, rfl, by decide, nofun⟩

/-! ### Scalars -/

/-- A word is read where its characters stand, and what stands behind them is left. The induction is
on the characters of the word. -/
theorem readWord_of_rest {word : List Char} (h : c.rest = word.map .char ++ r) :
    ∃ c', readWord word c = .ok ((), c') ∧ c'.rest = r := by
  induction word generalizing c with
  | nil => exact ⟨c, rfl, h⟩
  | cons x word ih =>
    rw [List.map_cons, List.cons_append] at h
    obtain ⟨c', hread, hrest⟩ := ih (Cursor.next_rest h)
    refine ⟨c', ?_, hrest⟩
    rw [readWord, Cursor.atEnd_of_rest h, Cursor.peek?_of_rest h, if_pos rfl, hread]
    rfl

/-- So is the value that it stands for. Each of the three words stands for one value. -/
theorem readLiteral_of_rest {word : List Char} (h : c.rest = word.map .char ++ r) :
    ∃ c', readLiteral word v c = .ok (v, c') ∧ c'.rest = r := by
  obtain ⟨c', hread, hrest⟩ := readWord_of_rest h
  refine ⟨c', ?_, hrest⟩
  unfold readLiteral
  rw [hread]

/-- A string is written behind a quote, and read back from there. -/
theorem readString_of_rest (h : c.rest = (renderString name).map .char ++ r) :
    c.peek? = some '"' ∧ ∃ c', readString c.next = .ok (name, c') ∧ c'.rest = r := by
  have hrest : c.rest = .char '"' :: ((escape name.toList).map .char ++ .char '"' :: r) := by
    rw [h, renderString, List.map_cons, List.map_append, List.cons_append, List.append_assoc]
    rfl
  exact ⟨Cursor.peek?_of_rest hrest, readString_escape (Cursor.next_rest hrest)⟩

/-- A value without items or members is read back, if what follows does not go on with it. Only
numbers need this, as nothing ends them but what follows. -/
theorem readScalar_chars (hscalar : v.IsScalar) (hv : v.IsWhole) :
    ReadsBack readScalar v.chars v := by
  intro c r h hr
  unfold readScalar
  cases v with
  | null =>
    rw [Cursor.peek?_of_rest h]
    exact readLiteral_of_rest (Cursor.next_rest h)
  | bool b =>
    cases b with
    | false =>
      rw [Cursor.peek?_of_rest h]
      exact readLiteral_of_rest (Cursor.next_rest h)
    | true =>
      rw [Cursor.peek?_of_rest h]
      exact readLiteral_of_rest (Cursor.next_rest h)
  | number n =>
    cases n with
    | binary b => cases hv
    | whole k hk =>
      obtain ⟨x, t, hcons, hstarts, -⟩ := @exists_toList_text k hk
      have hpeek : c.peek? = some x := by
        refine Cursor.peek?_of_rest (r := t.map .char ++ r) ?_
        rw [h, Value.chars, hcons]
        rfl
      obtain ⟨c', hread, hrest⟩ := readAnyNumber_text h hr
      refine ⟨c', ?_, hrest⟩
      rw [hpeek]
      -- No word and no string starts like a number.
      split
      iterate 4
        rename_i hx
        cases hx
        exact absurd hstarts (by decide)
      · rename_i y _ _ _ _ hy
        cases hy
        rw [if_pos hstarts, hread]
      · rename_i hnone
        cases hnone
  | string s =>
    obtain ⟨hpeek, c', hread, hend⟩ := readString_of_rest h
    refine ⟨c', ?_, hend⟩
    rw [hpeek, hread]
    rfl
  | array items => cases hscalar
  | object ms => cases hscalar

/-! ### Blanks -/

/-- Line breaks and spaces. -/
def AreBlank (cs : List Char) : Prop := ∀ x ∈ cs, x ∈ ['\n', ' ']

/-- Nothing is blank: it is the gap in documents without blanks, of which every gap is empty. -/
theorem areBlank_nil : AreBlank [] := fun _ h => nomatch h

/-- A space is blank. It stands behind the colon where members have a line each. -/
theorem areBlank_space : AreBlank [' '] := by
  intro x hx
  exact List.mem_cons_of_mem _ hx

/-- A line break with an indentation is blank. It stands in front of each item where items have a
line each. -/
theorem areBlank_indent (level : Nat) : AreBlank (indent level) := by
  intro x hx
  rcases List.mem_cons.1 hx with rfl | hx
  · exact List.mem_cons_self
  · rw [List.eq_of_mem_replicate hx]
    decide

/-- What is blank in front of an end does not go on with a token, either. -/
theorem AreBlank.ends (hgap : AreBlank gap) (h : Ends r) : Ends (gap.map .char ++ r) := by
  cases gap with
  | nil => exact h
  | cons x gap =>
    refine ends_cons ?_
    have hx := hgap x List.mem_cons_self
    simp only [List.mem_cons, List.not_mem_nil, or_false] at hx
    rcases hx with rfl | rfl <;> decide

/-- Blanks are passed over whatever they are, and only the place of the cursor depends on them. -/
theorem AreBlank.skipBlanksIn (hgap : AreBlank gap) (line column : Nat) :
    ∃ line' column', skipBlanksIn (gap.map .char ++ r) line column =
      Json.skipBlanksIn r line' column' := by
  induction gap generalizing line column with
  | nil => exact ⟨line, column, rfl⟩
  | cons x gap ih =>
    have ih := fun line column => ih (fun y hy => hgap y (List.mem_cons_of_mem _ hy)) line column
    have hx := hgap x List.mem_cons_self
    simp only [List.mem_cons, List.not_mem_nil, or_false] at hx
    rcases hx with rfl | rfl
    · exact ih (line + 1) 0
    · exact ih line (column + 1)

/-- Blanks are passed over up to the next character that is none. -/
theorem AreBlank.skipBlanks_rest (hgap : AreBlank gap) (hx : x ∉ ['\n', ' ', '\t', '\r'])
    (h : c.rest = gap.map .char ++ .char x :: r) : c.skipBlanks.rest = .char x :: r := by
  obtain ⟨line, column, hskip⟩ := hgap.skipBlanksIn (r := .char x :: r) c.line c.column
  have hstop := Cursor.skipBlanks_of_char (c := ⟨.char x :: r, line, column⟩) rfl hx
  have hcursor : c.skipBlanks = Cursor.skipBlanks ⟨.char x :: r, line, column⟩ := by
    rw [Cursor.skipBlanks, h, hskip]
    rfl
  rw [hcursor, hstop]

/-- Blanks are passed over up to the end. So blanks behind a document do not make it a longer one.
-/
theorem AreBlank.skipBlanks_atEnd (hgap : AreBlank gap) (h : c.rest = gap.map .char) :
    c.skipBlanks.atEnd = true := by
  obtain ⟨line, column, hskip⟩ := hgap.skipBlanksIn (r := []) c.line c.column
  rw [List.append_nil] at hskip
  rw [Cursor.skipBlanks, h, hskip]
  rfl

/-- What starts a document is no blank. So blanks in front of it are passed over, and not a part of
it. -/
theorem StartsValue.not_blank (hx : StartsValue x) : x ∉ ['\n', ' ', '\t', '\r'] := by
  intro hmem
  refine hx ?_
  simp only [List.mem_cons, List.not_mem_nil, or_false] at hmem ⊢
  rcases hmem with h | h | h | h <;> simp [h]

/-! ### Items -/

/-- What is written for the items behind the first one. -/
def behindCommas (gap : List Char) (text : α → List Char) (l : List α) : List Char :=
  l.flatMap fun a => ',' :: (gap ++ text a)

/-- Texts with commas between them, all of them behind a gap. -/
def joined (gap : List Char) (text : α → List Char) : List α → List Char
  | [] => []
  | a :: l => gap ++ text a ++ behindCommas gap text l

/-- There is a comma for each item behind the first one. -/
theorem length_le_behindCommas (gap : List Char) (text : α → List Char) (l : List α) :
    l.length ≤ (behindCommas gap text l).length := by
  induction l with
  | nil => exact Nat.le_refl 0
  | cons a l ih =>
    rw [behindCommas, List.flatMap_cons, List.length_append, List.length_cons, List.length_cons]
    rw [behindCommas] at ih
    omega

/-- So there are at most as many items as characters, and one more. It is why the fuel of the loop
is enough. -/
theorem length_le_joined (gap : List Char) (text : α → List Char) (l : List α) :
    l.length ≤ (joined gap text l).length + 1 := by
  cases l with
  | nil => exact Nat.zero_le _
  | cons a l =>
    have hcommas := length_le_behindCommas gap text l
    rw [joined, List.length_append, List.length_cons]
    omega

/-- What follows an item is the comma of the next one, or the end. -/
theorem ends_behindCommas (hclose : AreBlank close) (text : α → List Char) (l : List α)
    (hx : x ∈ [',', ']', '\x7d', '\n', ' ']) :
    Ends ((behindCommas gap text l).map .char ++ (close.map .char ++ .char x :: r)) := by
  cases l with
  | nil => exact hclose.ends (ends_cons hx)
  | cons a l => exact ends_cons (by decide)

/-- A text that starts like a document. -/
def StartsLikeValue (cs : List Char) : Prop := ∃ x t, cs = x :: t ∧ StartsValue x

/-- Behind a gap stands the first character of a document. It is no blank, so skipping blanks stops
there, and no bracket, so an array has not come to its end. -/
theorem StartsLikeValue.skipBlanks (hcs : StartsLikeValue cs) (hgap : AreBlank gap)
    (h : c.rest = gap.map .char ++ (cs.map .char ++ r)) :
    c.skipBlanks.rest = cs.map .char ++ r ∧ c.skipBlanks.atEnd = false ∧
      c.skipBlanks.peek? ≠ some ']' := by
  obtain ⟨x, t, rfl, hx⟩ := hcs
  have hrest : c.skipBlanks.rest = .char x :: (t.map .char ++ r) :=
    hgap.skipBlanks_rest hx.not_blank h
  refine ⟨hrest, Cursor.atEnd_of_rest hrest, ?_⟩
  rw [Cursor.peek?_of_rest hrest]
  intro he
  cases he
  exact absurd hx (by decide)

/-- The first item is expected right away, where neither the text nor the array ends. -/
theorem nextItem_first (hend : c.skipBlanks.atEnd = false)
    (hclose : c.skipBlanks.peek? ≠ some ']') : nextItem true c = .ok (true, c.skipBlanks) := by
  simp [nextItem, hend, hclose]

/-- The others are expected behind a comma. A bracket behind the comma is ruled out, as it would be
an error. -/
theorem nextItem_comma (h : c.rest = .char ',' :: r) (hend : c.next.skipBlanks.atEnd = false)
    (hclose : c.next.skipBlanks.peek? ≠ some ']') :
    nextItem false c = .ok (true, c.next.skipBlanks) := by
  unfold nextItem
  rw [Cursor.skipBlanks_of_char h (by decide)]
  simp [Cursor.atEnd_of_rest h, Cursor.peek?_of_rest h, hend, hclose]

/-- The items of an array end at its bracket. There is no comma left to be read, whether there were
items or none. -/
theorem itemsRead_nil (first : Bool) (item : Reader α) (hclose : AreBlank close)
    (h : c.rest = close.map .char ++ .char ']' :: r) :
    ∃ c', ItemsRead item first c [] c' ∧ c'.rest = .char ']' :: r := by
  have hrest := hclose.skipBlanks_rest (by decide) h
  exact ⟨_, .nil (nextItem_eq_end_iff.2 ⟨Cursor.peek?_of_rest hrest, rfl⟩), hrest⟩

section

variable {item : Reader α} {text : α → List Char} {l : List α}

/-- The items behind the first one are read up to the bracket. The induction is on the items, each
behind its comma. -/
theorem itemsRead_behindCommas (hgap : AreBlank gap) (hclose : AreBlank close)
    (hitems : ∀ a ∈ l, StartsLikeValue (text a) ∧ ReadsBack item (text a) a)
    (h : c.rest = (behindCommas gap text l).map .char ++ (close.map .char ++ .char ']' :: r)) :
    ∃ c', ItemsRead item false c l c' ∧ c'.rest = .char ']' :: r := by
  induction l generalizing c with
  | nil => exact itemsRead_nil false item hclose h
  | cons a l ih =>
    obtain ⟨hstarts, hread⟩ := hitems a List.mem_cons_self
    have hcomma : c.rest = .char ',' :: (gap.map .char ++ ((text a).map .char ++
        ((behindCommas gap text l).map .char ++ (close.map .char ++ .char ']' :: r)))) := by
      rw [h, behindCommas, List.flatMap_cons]
      simp [behindCommas]
    -- Behind the comma the loop looks at the first character of the item, which is no bracket.
    obtain ⟨hitem, hend, hbracket⟩ := hstarts.skipBlanks hgap (Cursor.next_rest hcomma)
    obtain ⟨c₁, hread, hrest⟩ := hread _ _ hitem (ends_behindCommas hclose text l (by decide))
    obtain ⟨c₂, hitems, hend'⟩ := ih (fun b hb => hitems b (List.mem_cons_of_mem _ hb)) hrest
    exact ⟨c₂, .cons (nextItem_comma hcomma hend hbracket) hread hitems, hend'⟩

/-- The items of an array are read up to the bracket. The first one has no comma in front, and the
others are read by the lemma on items behind commas. -/
theorem itemsRead_joined (hgap : AreBlank gap) (hclose : AreBlank close)
    (hitems : ∀ a ∈ l, StartsLikeValue (text a) ∧ ReadsBack item (text a) a)
    (h : c.rest = (joined gap text l).map .char ++ (close.map .char ++ .char ']' :: r)) :
    ∃ c', ItemsRead item true c l c' ∧ c'.rest = .char ']' :: r := by
  cases l with
  | nil => exact itemsRead_nil true item hclose h
  | cons a l =>
    obtain ⟨hstarts, hread⟩ := hitems a List.mem_cons_self
    have hfirst : c.rest = gap.map .char ++ ((text a).map .char ++
        ((behindCommas gap text l).map .char ++ (close.map .char ++ .char ']' :: r))) := by
      rw [h, joined]
      simp
    obtain ⟨hitem, hend, hbracket⟩ := hstarts.skipBlanks hgap hfirst
    obtain ⟨c₁, hread, hrest⟩ := hread _ _ hitem (ends_behindCommas hclose text l (by decide))
    obtain ⟨c₂, hitems, hend'⟩ := itemsRead_behindCommas hgap hclose
      (fun b hb => hitems b (List.mem_cons_of_mem _ hb)) hrest
    exact ⟨c₂, .cons (nextItem_first hend hbracket) hread hitems, hend'⟩

end

/-! ### Members -/

/-- What is written for a member, with blanks behind its colon. -/
def memberText (colon : List Char) (text : α → List Char) (m : String × α) : List Char :=
  renderString m.1 ++ ':' :: (colon ++ text m.2)

/-- The name of a member is read where its text stands. -/
theorem readName_of_rest (h : c.rest = (renderString name).map .char ++ r) :
    ∃ c', readName c = .ok (some name, c') ∧ c'.rest = r := by
  obtain ⟨hpeek, c', hread, hend⟩ := readString_of_rest h
  refine ⟨c', ?_, hend⟩
  unfold readName
  rw [hpeek]
  simp only [hread]

/-- Behind a gap stands the quote of a name. Every name is written with quotes, so the gap ends
there. -/
theorem AreBlank.skipBlanks_name (hgap : AreBlank gap)
    (h : c.rest = gap.map .char ++ ((renderString name).map .char ++ r)) :
    c.skipBlanks.rest = (renderString name).map .char ++ r :=
  hgap.skipBlanks_rest (by decide) h

/-- The first name is expected right away, behind a gap, and is read up to its colon. -/
theorem nextName_first (hgap : AreBlank gap)
    (h : c.rest = gap.map .char ++ ((renderString name).map .char ++ r)) :
    ∃ c', nextName true c = .ok (some name, c') ∧ c'.rest = r := by
  have hname := hgap.skipBlanks_name h
  have hquote : c.skipBlanks.rest = .char '"' :: _ := hname
  obtain ⟨c', hread, hend⟩ := readName_of_rest hname
  refine ⟨c', ?_, hend⟩
  unfold nextName
  simpa [Cursor.atEnd_of_rest hquote, Cursor.peek?_of_rest hquote] using hread

/-- The others are expected behind a comma, and a gap may stand between the comma and the name. -/
theorem nextName_comma (hgap : AreBlank gap)
    (h : c.rest = .char ',' :: (gap.map .char ++ ((renderString name).map .char ++ r))) :
    ∃ c', nextName false c = .ok (some name, c') ∧ c'.rest = r := by
  obtain ⟨c', hread, hend⟩ := readName_of_rest (hgap.skipBlanks_name (Cursor.next_rest h))
  refine ⟨c', ?_, hend⟩
  unfold nextName
  rw [Cursor.skipBlanks_of_char h (by decide)]
  simpa [Cursor.atEnd_of_rest h, Cursor.peek?_of_rest h] using hread

/-- A colon is read where it stands. No blank is written in front of it, in any layout. -/
theorem readColon_of_rest (h : c.rest = .char ':' :: r) : readColon c = .ok ((), c.next) := by
  unfold readColon
  rw [Cursor.skipBlanks_of_char h (by decide)]
  simp [Cursor.peek?_of_rest h]

/-- The members of an object end at its brace, as items end at their bracket. The gap in front of it
is skipped. -/
theorem membersRead_nil (first : Bool) (value : Reader α) (hclose : AreBlank close)
    (h : c.rest = close.map .char ++ .char '\x7d' :: r) :
    ∃ c', MembersRead value first c [] c' ∧ c'.rest = .char '\x7d' :: r := by
  have hrest := hclose.skipBlanks_rest (by decide) h
  have hends : nextName first c = .ok (none, c.skipBlanks) := by
    simp [nextName, Cursor.atEnd_of_rest hrest, Cursor.peek?_of_rest hrest]
  exact ⟨_, .nil hends, hrest⟩

section

variable {value : Reader α} {text : α → List Char} {l : List (String × α)} {colon : List Char}

/-- The value of a member is read behind its colon. The blank that may follow the colon is a part of
what is written for the value here. -/
theorem behindColon_of_rest {a : α} (hread : ReadsBack value (colon ++ text a) a)
    (h : c.rest = .char ':' :: ((colon ++ text a).map .char ++ r)) (hr : Ends r) :
    ∃ c', behindColon value c = .ok (a, c') ∧ c'.rest = r := by
  obtain ⟨c', hvalue, hend⟩ := hread c.next r (Cursor.next_rest h) hr
  refine ⟨c', ?_, hend⟩
  unfold behindColon
  rw [readColon_of_rest h]
  exact hvalue

/-- The members behind the first one are read up to the brace. The induction is on the members, each
behind its comma. -/
theorem membersRead_behindCommas (hgap : AreBlank gap) (hclose : AreBlank close)
    (hms : ∀ m ∈ l, ReadsBack value (colon ++ text m.2) m.2)
    (h : c.rest = (behindCommas gap (memberText colon text) l).map .char ++
      (close.map .char ++ .char '\x7d' :: r)) :
    ∃ c', MembersRead value false c l c' ∧ c'.rest = .char '\x7d' :: r := by
  induction l generalizing c with
  | nil => exact membersRead_nil false value hclose h
  | cons m l ih =>
    have hcomma : c.rest = .char ',' :: (gap.map .char ++ ((renderString m.1).map .char ++
        (.char ':' :: ((colon ++ text m.2).map .char ++
          ((behindCommas gap (memberText colon text) l).map .char ++
            (close.map .char ++ .char '\x7d' :: r)))))) := by
      rw [h, behindCommas, List.flatMap_cons]
      simp [behindCommas, memberText]
    -- A comma and a name, a colon and a value, and then the members that are left.
    obtain ⟨c₁, hname, hrest⟩ := nextName_comma hgap hcomma
    obtain ⟨c₂, hmember, hrest⟩ := behindColon_of_rest (hms m List.mem_cons_self) hrest
      (ends_behindCommas hclose (memberText colon text) l (by decide))
    obtain ⟨c₃, hmembers, hend⟩ := ih (fun n hn => hms n (List.mem_cons_of_mem _ hn)) hrest
    exact ⟨c₃, .cons hname hmember hmembers, hend⟩

/-- The members of an object are read up to the brace, in the same way as items. Between a name and
its value the writer may have a blank. -/
theorem membersRead_joined (hgap : AreBlank gap) (hclose : AreBlank close)
    (hms : ∀ m ∈ l, ReadsBack value (colon ++ text m.2) m.2)
    (h : c.rest = (joined gap (memberText colon text) l).map .char ++
      (close.map .char ++ .char '\x7d' :: r)) :
    ∃ c', MembersRead value true c l c' ∧ c'.rest = .char '\x7d' :: r := by
  cases l with
  | nil => exact membersRead_nil true value hclose h
  | cons m l =>
    have hfirst : c.rest = gap.map .char ++ ((renderString m.1).map .char ++
        (.char ':' :: ((colon ++ text m.2).map .char ++
          ((behindCommas gap (memberText colon text) l).map .char ++
            (close.map .char ++ .char '\x7d' :: r))))) := by
      rw [h, joined]
      simp [memberText]
    -- The first member has no comma in front. All others are covered by the lemma before.
    obtain ⟨c₁, hname, hrest⟩ := nextName_first hgap hfirst
    obtain ⟨c₂, hmember, hrest⟩ := behindColon_of_rest (hms m List.mem_cons_self) hrest
      (ends_behindCommas hclose (memberText colon text) l (by decide))
    obtain ⟨c₃, hmembers, hend⟩ := membersRead_behindCommas hgap hclose
      (fun n hn => hms n (List.mem_cons_of_mem _ hn)) hrest
    exact ⟨c₃, .cons hname hmember hmembers, hend⟩

end

/-! ### Laid out documents -/

/-- A text with the tokens of a document, and blanks where they may stand. -/
inductive LaidOut : Value → List Char → Prop
  | scalar {v : Value} (isScalar : v.IsScalar) : LaidOut v v.chars
  | array {items : List Value} {gap close : List Char} {text : Value → List Char}
    (gapBlank : AreBlank gap) (closeBlank : AreBlank close)
    (laidOut : ∀ v ∈ items, LaidOut v (text v)) :
    LaidOut (.array items) ('[' :: (joined gap text items ++ close ++ [']']))
  | object {ms : Members} {gap colon close : List Char} {text : Value → List Char}
    (gapBlank : AreBlank gap) (colonBlank : AreBlank colon) (closeBlank : AreBlank close)
    (laidOut : ∀ m ∈ ms, LaidOut m.2 (text m.2)) :
    LaidOut (.object ms)
      ('\x7b' :: (joined gap (memberText colon text) ms ++ close ++ ['\x7d']))

/-- What is laid out starts like a document. Its first character is one of the value itself, since
no layout puts a gap in front. -/
theorem LaidOut.startsLikeValue (h : LaidOut v cs) (hv : v.IsWhole) : StartsLikeValue cs := by
  cases h with
  | scalar =>
    obtain ⟨x, t, hcons, hx, -⟩ := Value.exists_chars hv
    exact ⟨x, t, hcons, hx⟩
  | array | object => exact ⟨_, _, rfl, by decide⟩

/-- A value without items or members is read back at any depth. What stands behind it must not go on
with it, as digits would behind a number. -/
theorem readDocument_chars_scalar (depth : Nat) (hscalar : v.IsScalar) (hwhole : v.IsWhole) :
    ReadsBack (readDocument depth) v.chars v := by
  intro c r h hr
  -- Its first character is neither a blank nor what an array or object starts with.
  obtain ⟨x, t, hchars, hx, hopens⟩ := Value.exists_chars hwhole
  have hstart := h
  rw [hchars, List.map_cons, List.cons_append] at hstart
  have hblanks := Cursor.skipBlanks_of_char hstart hx.not_blank
  have hpeek : ∀ y ∈ ['[', '\x7b'], c.skipBlanks.peek? ≠ some y := by
    intro y hy he
    rw [hblanks, Cursor.peek?_of_rest hstart] at he
    cases he
    exact hopens hscalar hy
  rw [readDocument_scalar (hpeek _ (by decide)) (hpeek _ (by decide)), hblanks]
  exact readScalar_chars hscalar hwhole c r h hr

/-- Blanks in front of a document do not matter: they are skipped before its first character is
looked at. -/
theorem ReadsBack.behind (hread : ReadsBack (readDocument depth) cs v) (hgap : AreBlank gap)
    (hstarts : StartsLikeValue cs) : ReadsBack (readDocument depth) (gap ++ cs) v := by
  intro c r h hr
  rw [List.map_append, List.append_assoc] at h
  rw [← readDocument_skipBlanks]
  exact hread _ r (hstarts.skipBlanks hgap h).1 hr

/-- A document is read back from its tokens, wherever blanks stand between them, when its numbers
are whole and it is not nested too deep. The induction is on how it is laid out; what follows each
part is a comma, a bracket or a brace, so that no number goes on. -/
theorem LaidOut.readsBack (h : LaidOut v cs) (hwhole : v.IsWhole) (hlevels : v.levels ≤ depth) :
    ReadsBack (readDocument depth) cs v := by
  induction h generalizing depth with
  | scalar hscalar => exact readDocument_chars_scalar depth hscalar hwhole
  | @array items gap close text hgap hclose hitems ih =>
    obtain ⟨depth, rfl⟩ : ∃ n, depth = n + 1 := by
      rw [Value.levels] at hlevels
      exact Nat.exists_eq_add_one_of_ne_zero (by omega)
    rw [Value.isWhole_array] at hwhole
    rw [Value.levels_array_le_iff] at hlevels
    intro c r h _
    have hopen : c.rest = .char '[' ::
        ((joined gap text items).map .char ++ (close.map .char ++ .char ']' :: r)) := by
      rw [h]
      simp
    have hbracket := Cursor.skipBlanks_of_char hopen (by decide)
    have hinside := Cursor.next_rest hopen
    obtain ⟨c', hread, hend⟩ := itemsRead_joined hgap hclose
      (fun v hv => ⟨(hitems v hv).startsLikeValue (hwhole v hv),
        ih v hv (hwhole v hv) (hlevels v hv)⟩) hinside
    refine ⟨c'.next, readDocument_succ_eq_ok_iff.2 (.array ?_ ?_ ?_), Cursor.next_rest hend⟩
    · rw [hbracket]
      exact Cursor.peek?_of_rest hopen
    -- The loop may take as many steps as symbols are left, and every item has one.
    · have hlength := length_le_joined gap text items
      rw [hbracket, hinside]
      simp only [List.length_append, List.length_map, List.length_cons]
      omega
    · rw [hbracket]
      exact hread
  | @object ms gap colon close text hgap hcolon hclose hmembers ih =>
    obtain ⟨depth, rfl⟩ : ∃ n, depth = n + 1 := by
      rw [Value.levels] at hlevels
      exact Nat.exists_eq_add_one_of_ne_zero (by omega)
    rw [Value.isWhole_object] at hwhole
    rw [Value.levels_object_le_iff] at hlevels
    intro c r h _
    have hopen : c.rest = .char '\x7b' :: ((joined gap (memberText colon text) ms).map .char ++
        (close.map .char ++ .char '\x7d' :: r)) := by
      rw [h]
      simp
    have hbrace := Cursor.skipBlanks_of_char hopen (by decide)
    have hinside := Cursor.next_rest hopen
    obtain ⟨c', hread, hend⟩ := membersRead_joined hgap hclose
      (fun m hm => (ih m hm (hwhole m hm) (hlevels m hm)).behind hcolon
        ((hmembers m hm).startsLikeValue (hwhole m hm))) hinside
    refine ⟨c'.next, readDocument_succ_eq_ok_iff.2 (.object ?_ ?_ ?_), Cursor.next_rest hend⟩
    · rw [hbrace]
      exact Cursor.peek?_of_rest hopen
    · have hlength := length_le_joined gap (memberText colon text) ms
      rw [hbrace, hinside]
      simp only [List.length_append, List.length_map, List.length_cons]
      omega
    · rw [hbrace]
      exact hread

/-! ### Printers -/

/-- The first item is written without a comma, the others behind one. So the text of an array is one
of joined texts, which the lemmas on reading are about. -/
theorem Value.itemChars_eq (items : List Value) :
    Value.itemChars items = joined [] Value.chars items := by
  cases items with
  | nil => rfl
  | cons v items =>
    induction items generalizing v with
    | nil => rw [Value.itemChars, joined, behindCommas, List.flatMap_nil, List.append_nil]; rfl
    | cons w items ih =>
      have hstep : Value.itemChars (v :: w :: items) =
          v.chars ++ ',' :: Value.itemChars (w :: items) := rfl
      rw [hstep, ih]
      rfl

/-- Members are written in the same way, each behind its name. Without blanks there is nothing
between the colon and the value. -/
theorem Value.memberChars_eq (ms : Members) :
    Value.memberChars ms = joined [] (memberText [] Value.chars) ms := by
  cases ms with
  | nil => rfl
  | cons m ms =>
    induction ms generalizing m with
    | nil => rw [Value.memberChars, joined, behindCommas, List.flatMap_nil, List.append_nil]; rfl
    | cons n ms ih =>
      have hstep : Value.memberChars (m :: n :: ms) =
          renderString m.1 ++ ':' :: (m.2.chars ++ ',' :: Value.memberChars (n :: ms)) := rfl
      rw [hstep, ih]
      simp [joined, memberText, behindCommas]

/-- Items with a line each are written behind the indentation of their level. So the gap in front of
an item is a line end and blanks, and otherwise it is as without them. -/
theorem Value.prettyItems_eq (level : Nat) (items : List Value) :
    Value.prettyItems level items = joined (indent level) (Value.prettyChars level) items := by
  cases items with
  | nil => rfl
  | cons v items =>
    induction items generalizing v with
    | nil => rw [Value.prettyItems, joined, behindCommas, List.flatMap_nil, List.append_nil]
    | cons w items ih =>
      have hstep : Value.prettyItems level (v :: w :: items) =
          indent level ++ v.prettyChars level ++ ',' :: Value.prettyItems level (w :: items) := rfl
      rw [hstep, ih]
      simp [joined, behindCommas]

/-- So are members with a line each, with a blank behind the colon. The two layouts differ in gaps
only, and those are skipped when a document is read. -/
theorem Value.prettyMembers_eq (level : Nat) (ms : Members) :
    Value.prettyMembers level ms =
      joined (indent level) (memberText [' '] (Value.prettyChars level)) ms := by
  cases ms with
  | nil => rfl
  | cons m ms =>
    induction ms generalizing m with
    | nil =>
      rw [Value.prettyMembers, joined, behindCommas, List.flatMap_nil, List.append_nil,
        List.append_assoc]
      rfl
    | cons n ms ih =>
      have hstep : Value.prettyMembers level (m :: n :: ms) =
          indent level ++ renderString m.1 ++ ':' :: ' ' :: (m.2.prettyChars level ++
            ',' :: Value.prettyMembers level (n :: ms)) := rfl
      rw [hstep, ih]
      simp [joined, memberText, behindCommas]

mutual

/-- A document without blanks is laid out. It is the layout of bodies and of what a device is
written as, and reading it back is a case of reading any layout. -/
theorem laidOut_chars : ∀ v : Value, LaidOut v v.chars
  | .array items => by
    rw [Value.chars, Value.itemChars_eq]
    have harray := LaidOut.array areBlank_nil areBlank_nil (laidOut_itemChars items)
    rwa [List.append_nil] at harray
  | .object ms => by
    rw [Value.chars, Value.memberChars_eq]
    have hobject := LaidOut.object areBlank_nil areBlank_nil areBlank_nil (laidOut_memberChars ms)
    rwa [List.append_nil] at hobject
  | .null | .bool _ | .number _ | .string _ => .scalar trivial

/-- So are the items of an array without blanks. It is one of three statements that are proved
together, following the value. -/
theorem laidOut_itemChars : ∀ items : List Value, ∀ v ∈ items, LaidOut v v.chars
  | [] => nofun
  | v :: r => List.forall_mem_cons.2 ⟨laidOut_chars v, laidOut_itemChars r⟩

/-- So are the values of an object without blanks. Their names need no layout, as they have only one
form. -/
theorem laidOut_memberChars :
    ∀ ms : List (String × Value), ∀ m ∈ ms, LaidOut m.2 m.2.chars
  | [] => nofun
  | (_, v) :: r => List.forall_mem_cons.2 ⟨laidOut_chars v, laidOut_memberChars r⟩

end

mutual

/-- A document with one item or member a line is laid out. Empty arrays and objects stay on their
line, so they are cases of their own. -/
theorem laidOut_prettyChars : ∀ (v : Value) (level : Nat), LaidOut v (v.prettyChars level)
  | .array [], _ => .array areBlank_nil areBlank_nil (laidOut_itemChars [])
  | .array (v :: r), level => by
    rw [Value.prettyChars, Value.prettyItems_eq]
    exact .array (areBlank_indent _) (areBlank_indent _) (laidOut_prettyItems (v :: r) (level + 1))
  | .object [], _ => .object areBlank_nil areBlank_nil areBlank_nil (laidOut_memberChars [])
  | .object (m :: r), level => by
    rw [Value.prettyChars, Value.prettyMembers_eq]
    exact .object (areBlank_indent _) areBlank_space (areBlank_indent _)
      (laidOut_prettyMembers (m :: r) (level + 1))
  | .null, _ | .bool _, _ | .number _, _ | .string _, _ => .scalar trivial

/-- So are the items of an array with a line each. -/
theorem laidOut_prettyItems : ∀ (items : List Value) (level : Nat),
    ∀ v ∈ items, LaidOut v (v.prettyChars level)
  | [], _ => nofun
  | v :: r, level =>
    List.forall_mem_cons.2 ⟨laidOut_prettyChars v level, laidOut_prettyItems r level⟩

/-- So are the values of an object with a line each. -/
theorem laidOut_prettyMembers : ∀ (ms : List (String × Value)) (level : Nat),
    ∀ m ∈ ms, LaidOut m.2 (m.2.prettyChars level)
  | [], _ => nofun
  | (_, v) :: r, level =>
    List.forall_mem_cons.2 ⟨laidOut_prettyChars v level, laidOut_prettyMembers r level⟩

end

/-! ### Whole texts -/

/-- A text that is a laid out document with blanks behind it is read as that document. -/
theorem readAll_of_laidOut {text : String} (hlaid : LaidOut v cs) (hwhole : v.IsWhole)
    (hlevels : v.levels ≤ depth) (hafter : AreBlank close) (htext : text.toList = cs ++ close) :
    readAll (readDocument depth) (Text.bytes text) = .ok v := by
  have hsymbols : Text.Symbol.decode (Text.bytes text) = cs.map .char ++ close.map .char := by
    rw [Text.Symbol.decode_bytes, Text.Symbol.ofString, htext, List.map_append]
  have hends : Ends (close.map .char) := by
    have h := hafter.ends ends_nil
    rwa [List.append_nil] at h
  obtain ⟨c', hread, hend⟩ := hlaid.readsBack hwhole hlevels
    (.start (Text.Symbol.decode (Text.bytes text))) _ hsymbols hends
  rw [readAll_eq_ok_iff]
  exact ⟨c', hread, hafter.skipBlanks_atEnd hend⟩

/-- What is read of such a text is what the document stands for. -/
theorem ofBytes_of_laidOut {text : String} (hlaid : LaidOut v cs) (hwhole : v.IsWhole)
    (hlevels : v.levels ≤ greatestDepth) (hafter : AreBlank close)
    (htext : text.toList = cs ++ close) : Value.ofBytes (Text.bytes text) = .ok v.normalize := by
  obtain ⟨c, hread, hend⟩ :=
    readAll_eq_ok_iff.1 (readAll_of_laidOut hlaid hwhole hlevels hafter htext)
  rw [Value.ofBytes, readAll_eq_ok_iff]
  exact ⟨c, readValue_eq_ok_iff.2 ⟨v, hread, rfl⟩, hend⟩

/-- A document in normal form is read back from the bytes of its text, when its numbers are whole
and it is not nested too deep. -/
theorem ofBytes_render (hnormal : v.IsNormal) (hwhole : v.IsWhole)
    (hlevels : v.levels ≤ greatestDepth) : Value.ofBytes (Text.bytes v.render) = .ok v := by
  have htext : v.render.toList = v.chars ++ [] := by
    rw [Value.render, String.toList_ofList, List.append_nil]
  have hread := ofBytes_of_laidOut (laidOut_chars v) hwhole hlevels areBlank_nil htext
  rwa [Value.normalize_of_isNormal v hnormal] at hread

end DeviceRegistry.Json
