import DeviceRegistry.Proofs.Toml.Scalar
import DeviceRegistry.Proofs.Toml.Tree

/-!
# `DeviceRegistry.Proofs.Toml.RoundTrip`: tables are read back

What the printer writes for a table is read as that table, when the names in each table are distinct
and its plain values come before its tables (`Writable`). Lines are read one after the other, so a
text is told by what it makes of a document (`Reads`), and sections by what they make of it in turn
(`ReadsAll`). Main statements:

* `readLine_value`, `readLine_header`: the two kinds of lines that are written.
* `reads_values`, `reads_tables`: the lines and the sections of what is in a table.
* `Writable.isAdded`: the sections of a table add the table to the tree.
* `Writable.parse_render`: the whole text.
-/

set_option autoImplicit false

namespace DeviceRegistry.Toml

open Nodes

variable {d d' d₁ : Document} {s t r : List Char} {header path : List String} {name : String}
  {shape : Shape} {tree tree' : Nodes}

/-! ### Texts and what they make of documents -/

/-- Reading a text takes one document to another, whatever follows the text. -/
def Reads (d : Document) (s : List Char) (d' : Document) : Prop :=
  ∀ (r : List Char) (fuel : Nat), (s ++ r).length < fuel →
    ∃ fuel', r.length < fuel' ∧ readDocument fuel d (s ++ r) = readDocument fuel' d' r

namespace Reads

/-- An empty text leaves the document as it is. It is where reading lines one after the other ends.
-/
theorem refl (d : Document) : Reads d [] d := fun _ fuel hfuel => ⟨fuel, hfuel, rfl⟩

/-- Texts are read one behind the other. What the first makes of a document is where the second
starts. -/
theorem append (h : Reads d s d₁) (h' : Reads d₁ t d') : Reads d (s ++ t) d' := by
  intro r fuel hfuel
  rw [List.append_assoc] at hfuel ⊢
  obtain ⟨fuel₁, hfuel₁, hfirst⟩ := h (t ++ r) fuel hfuel
  obtain ⟨fuel', hfuel', hsecond⟩ := h' r fuel₁ hfuel₁
  exact ⟨fuel', hfuel', hfirst.trans hsecond⟩

/-- A line takes as much fuel as a character, so the fuel for all characters is enough for all
lines. -/
theorem line (hs : s ≠ []) (h : ∀ r, readLine d (s ++ r) = some (d', r)) : Reads d s d' := by
  intro r fuel hfuel
  obtain ⟨fuel, rfl⟩ := Nat.exists_eq_add_one_of_ne_zero (Nat.ne_zero_of_lt hfuel)
  obtain ⟨x, s, rfl⟩ := List.exists_cons_of_ne_nil hs
  refine ⟨fuel, ?_, ?_⟩
  · rw [List.length_append, List.length_cons] at hfuel
    omega
  · have hline := h r
    rw [List.cons_append] at hline ⊢
    show (readLine d _ >>= fun x => readDocument fuel x.1 x.2) = _
    rw [hline]
    rfl

/-- A text that is read to its end makes the whole document, with fuel for all its characters. -/
theorem readDocument_eq (h : Reads d s d') {fuel : Nat} (hfuel : s.length < fuel) :
    readDocument fuel d s = some d' := by
  obtain ⟨fuel', hfuel', hread⟩ := h [] fuel (by rwa [List.append_nil])
  obtain ⟨fuel', rfl⟩ := Nat.exists_eq_add_one_of_ne_zero (Nat.ne_zero_of_lt hfuel')
  rw [List.append_nil] at hread
  exact hread

/-- An empty text makes nothing of a document, so two states that it links are one. -/
theorem eq_of_nil (h : Reads d [] d') : d = d' :=
  Option.some.inj (h.readDocument_eq (Nat.lt_succ_self 0))

end Reads

/-- Sections take one document to another in turn. -/
inductive ReadsAll : Document → List String → Document → Prop
  | nil {d : Document} : ReadsAll d [] d
  | cons {d d₁ d' : Document} {s : String} {r : List String} (first : Reads d s.toList d₁)
    (rest : ReadsAll d₁ r d') : ReadsAll d (s :: r) d'

namespace ReadsAll

variable {sections sections' : List String}

/-- Sections are read one after the other, and each goes on with the document that the last one has
left. -/
theorem append (h : ReadsAll d sections d₁) (h' : ReadsAll d₁ sections' d') :
    ReadsAll d (sections ++ sections') d' := by
  induction h with
  | nil => exact h'
  | cons first _ ih => exact .cons first (ih h')

/-- Sections are read with empty lines between them: an empty line changes no document. The
induction is on the sections, each of which is read from where the last one left the document. -/
theorem reads_intercalate (h : ReadsAll d sections d') :
    Reads d (String.intercalate "\n" sections).toList d' := by
  induction h with
  | nil => exact Reads.refl _
  | @cons d d₁ d' s r first rest ih =>
    cases r with
    | nil =>
      cases rest
      rwa [String.intercalate_singleton]
    | cons s' r =>
      have hempty : Reads d₁ "\n".toList d₁ :=
        Reads.line (s := ['\n']) (List.cons_ne_nil _ _) fun r => rfl
      rw [String.intercalate_cons_cons, String.toList_append, String.toList_append]
      exact (first.append hempty).append ih

end ReadsAll

/-! ### Lines -/

/-- The line of a value. -/
def lineText (m : String × Value) : String := keyText m.1 ++ " = " ++ m.2.text ++ "\n"

/-- A pair is a key and, behind the equals sign and spaces, a value. -/
theorem readPair_of_key {item : Reader Value} {key : List String × String}
    (hkey : readKey greatestDepth s = some (key, '=' :: t)) :
    readPair item s = (item (skipSpace t)).map fun (v, r) => ((key, v), r) := by
  rw [readPair, hkey]
  show (item (skipSpace t) >>= fun x => some ((key, x.1), x.2)) = _
  cases item (skipSpace t) <;> rfl

/-- The line of a plain value is read as its name and the value, up to the end of the line. -/
theorem readPair_line {v : Value} (hv : v.IsPlain) (name : String) (r : List Char) :
    readPair (readValue greatestDepth) ((lineText (name, v)).toList ++ r) =
      some ((([], name), v), '\n' :: r) := by
  have htext : (lineText (name, v)).toList ++ r =
      (keyText name).toList ++ ' ' :: '=' :: ' ' :: (v.text.toList ++ '\n' :: r) := by
    simp [lineText]
  have hkey : readKey greatestDepth ((lineText (name, v)).toList ++ r) =
      some (([], name), '=' :: ' ' :: (v.text.toList ++ '\n' :: r)) := by
    rw [htext]
    exact readKey_name (by decide) name (by simp [isBare]) (by simp [skipSpace, isSpace])
  have hspace : ∀ t, skipSpace (' ' :: t) = skipSpace t := fun _ => rfl
  rw [readPair_of_key hkey, hspace, hv.skipSpace_text, hv.readValue_text]
  rfl

/-- A line that starts with no mark has a key and its value. The marks are those of blanks,
comments, line ends and headers. -/
theorem readLine_pair {x : Char} (hx : x ∉ [' ', '\t', '#', '\n', '\r', '[']) (d : Document)
    (s : List Char) :
    readLine d (x :: s) = (do
      let (((path, name), v), r) ← readPair (readValue greatestDepth) (x :: s)
      let tree ← within false d.header (addValue path name v) .explicit d.tree
      let r ← endLine r
      return (⟨tree, d.header⟩, r)) := by
  have hspace : isSpace x = false := by
    simp only [List.mem_cons, not_or] at hx
    simp [isSpace, hx.1, hx.2.1]
  have hskip : skipSpace (x :: s) = x :: s := List.dropWhile_cons_of_neg (by simp [hspace])
  unfold readLine
  rw [hskip]
  -- The last of the seven kinds of lines. Each of the others starts with a mark.
  split
  case h_7 => rfl
  all_goals
    rename_i heq
    cases heq
  all_goals exact absurd hx (by decide)

/-- A value is added to the table of the last header, which is how the lines under a header are
read. -/
theorem readLine_value {v : Value} (hv : v.IsPlain)
    (h : within false header (addValue [] name v) .explicit tree = some tree') (r : List Char) :
    readLine ⟨tree, header⟩ ((lineText (name, v)).toList ++ r) = some (⟨tree', header⟩, r) := by
  have hpair := readPair_line hv name r
  obtain ⟨x, t, hk, hx⟩ := exists_keyText name
  have htext : (lineText (name, v)).toList ++ r =
      x :: (t ++ ((" = " ++ v.text ++ "\n").toList ++ r)) := by
    simp [lineText, hk]
  have hmark : x ∉ [' ', '\t', '#', '\n', '\r', '['] := by
    intro hmem
    simp only [List.mem_cons, List.not_mem_nil, or_false] at hmem
    rcases hmem with rfl | rfl | rfl | rfl | rfl | rfl <;> exact absurd hx (by decide)
  rw [htext] at hpair ⊢
  rw [readLine_pair hmark, hpair]
  show (within false header (addValue [] name v) .explicit tree >>= _) = _
  rw [h]
  rfl

/-- A line that starts with one bracket is a header, and one that starts with two is not written
here. Arrays of tables are not among what settings can be. -/
theorem readLine_of_bracket (h : ∀ t, s ≠ '[' :: t) (d : Document) :
    readLine d ('[' :: s) = readHeader [']'] openTable d s := by
  have hskip : skipSpace ('[' :: s) = '[' :: s := rfl
  unfold readLine
  rw [hskip]
  split
  case h_5 heq =>
    cases heq
    exact absurd rfl (h _)
  case h_6 heq =>
    cases heq
    rfl
  case h_7 hno => exact absurd rfl (hno s)
  all_goals
    rename_i heq
    cases heq

/-- A header opens a table at its path, and it is the one that values are added to from then on. -/
theorem readLine_header (hpath : path.length < greatestDepth)
    (h : openTable path name tree = some tree') (r : List Char) :
    readLine ⟨tree, header⟩ ((headerText (path ++ [name])).toList ++ r) =
      some (⟨tree', path ++ [name]⟩, r) := by
  have hkey := readKey_path path hpath name ('\n' :: r)
  have htext : (headerText (path ++ [name])).toList ++ r =
      '[' :: ((String.intercalate "." ((path ++ [name]).map keyText)).toList ++
        ']' :: '\n' :: r) := by
    simp [headerText]
  have hstart : ∀ t, (String.intercalate "." ((path ++ [name]).map keyText)).toList ++
      ']' :: '\n' :: r ≠ '[' :: t := by
    intro t heq
    rw [heq, readKey_eq_none (by decide) (by decide)] at hkey
    cases hkey
  rw [htext, readLine_of_bracket hstart, readHeader, hkey]
  show (openTable path name tree >>= _) = _
  rw [h]
  rfl

/-- No line starts with a mark of the byte order: a text that is read does not, so its reader has
taken none away. -/
theorem readDocument_mark (fuel : Nat) (d : Document) (r : List Char) :
    readDocument (fuel + 1) d ('\uFEFF' :: r) = none := by
  have hkey : readKey greatestDepth ('\uFEFF' :: r) = none :=
    readKey_eq_none (by decide) (by decide) greatestDepth
  have hpair : readPair (readValue greatestDepth) ('\uFEFF' :: r) = none := by
    rw [readPair, hkey]
    rfl
  show (readLine d ('\uFEFF' :: r) >>= fun x => readDocument fuel x.1 x.2) = none
  rw [readLine_pair (by decide), hpair]
  rfl

/-! ### The tree of a table -/

/-- Whether a table is written under a header of its own. -/
def hasHeader (members : List (String × Value)) : Bool :=
  members.isEmpty || members.any fun m => !m.2.isTable

mutual

/-- The part of the tree that is there when a value has been read. -/
def Value.node : Value → Node
  | .table members =>
    .table (if hasHeader members then .explicit else .implicit) (Value.nodes members)
  | v => .leaf v

/-- The members of the tree that are there when members have been read. -/
def Value.nodes : List (String × Value) → Nodes
  | [] => []
  | (name, v) :: r => (name, v.node) :: Value.nodes r

end

mutual

/-- The node of a value stands for that value. So a tree that is made of nodes can be turned back
into what was written. -/
theorem Value.value_node : (v : Value) → v.node.value = v
  | .table members => by rw [Value.node, Node.value, Value.membersValue_nodes members]
  | .string _ | .integer _ | .real _ | .boolean _ | .datetime _ | .array _ => by
    simp [Value.node, Node.value]

/-- The nodes of members stand for those members. With the lemma before, a value can be found in the
tree that its text makes. -/
theorem Value.membersValue_nodes : (members : List (String × Value)) →
    Node.membersValue (Value.nodes members) = members
  | [] => rfl
  | (name, v) :: r => by
    rw [Value.nodes, Node.membersValue, Value.value_node v, Value.membersValue_nodes r]

end

section

variable {members members' : List (String × Value)}

/-- The nodes of members that are put together are those of both parts. -/
theorem nodes_append : Value.nodes (members ++ members') =
    Value.nodes members ++ Value.nodes members' := by
  induction members with
  | nil => rfl
  | cons m members ih =>
    rw [List.cons_append, Value.nodes, Value.nodes, ih, List.cons_append]

/-- The nodes of members have their names. So names that differ in a table differ in its tree. -/
theorem map_fst_nodes : (Value.nodes members).map Prod.fst = members.map Prod.fst := by
  induction members with
  | nil => rfl
  | cons m members ih =>
    rw [Value.nodes, List.map_cons, List.map_cons, ih]

/-- The nodes of plain values are leaves. Only tables have nodes below them, and they come behind
the values. -/
theorem nodes_of_plain (h : ∀ m ∈ members, m.2.IsPlain) : Value.nodes members = leaves members := by
  induction members with
  | nil => rfl
  | cons m members ih =>
    obtain ⟨name, v⟩ := m
    obtain ⟨hv, hrest⟩ := List.forall_mem_cons.1 h
    have hnode : v.node = .leaf v := by
      cases v with
      | table _ => exact absurd hv id
      | _ => simp [Value.node]
    rw [Value.nodes, ih hrest, hnode]
    rfl

/-- The sections of tables that are put together are those of both parts. -/
theorem tableSections_append : Value.tableSections path (members ++ members') =
    Value.tableSections path members ++ Value.tableSections path members' := by
  induction members with
  | nil => rfl
  | cons m members ih =>
    rw [List.cons_append, Value.tableSections, Value.tableSections, ih, List.append_assoc]

/-- A plain value is no table. So it has a line of its own and no header. -/
theorem isTable_of_isPlain {v : Value} (h : v.IsPlain) : v.isTable = false := by
  cases v with
  | table _ => exact absurd h id
  | _ => rfl

/-- Plain values have no sections of their own: they are the lines of the section that they are in.
-/
theorem tableSections_of_plain (h : ∀ m ∈ members, m.2.IsPlain) :
    Value.tableSections path members = [] := by
  induction members with
  | nil => rfl
  | cons m members ih =>
    obtain ⟨name, v⟩ := m
    obtain ⟨hv, hrest⟩ := List.forall_mem_cons.1 h
    rw [Value.tableSections, ih hrest, List.append_nil]
    cases v with
    | table _ => exact absurd hv id
    | _ => simp [Value.sections]

end

/-! ### Tables that can be written -/

/-- Tables as members. -/
def tablesOf (tables : List (String × List (String × Value))) : List (String × Value) :=
  tables.map fun m => (m.1, .table m.2)

/-- A table of at most so many levels that the printer writes as it is: its names are distinct, and
the plain values come before the tables, as they do in a text. -/
inductive Writable : Nat → List (String × Value) → Prop
  | intro {levels : Nat} {values : List (String × Value)}
    {tables : List (String × List (String × Value))} (plain : ∀ m ∈ values, m.2.IsPlain)
    (below : ∀ m ∈ tables, Writable levels m.2)
    (distinct : ((values ++ tablesOf tables).map Prod.fst).Nodup) :
    Writable (levels + 1) (values ++ tablesOf tables)

section

variable {values : List (String × Value)} {tables : List (String × List (String × Value))}

/-- Members that are tables are tables. With the lemma on plain values it tells the two parts of a
table apart. -/
theorem isTable_of_mem_tablesOf {m : String × Value} (h : m ∈ tablesOf tables) :
    m.2.isTable = true := by
  obtain ⟨t, -, rfl⟩ := List.mem_map.1 h
  rfl

/-- The lines of a table are those of its plain values, the tables in it having sections instead. -/
theorem linesOf_eq (h : ∀ m ∈ values, m.2.IsPlain) :
    linesOf (values ++ tablesOf tables) = String.join (values.map lineText) := by
  have hvalues : values.filter (fun m => !m.2.isTable) = values :=
    List.filter_eq_self.2 fun m hm => by simp [isTable_of_isPlain (h m hm)]
  have htables : (tablesOf tables).filter (fun m => !m.2.isTable) = [] :=
    List.filter_eq_nil_iff.2 fun m hm => by simp [isTable_of_mem_tablesOf hm]
  rw [linesOf, List.filter_append, hvalues, htables, List.append_nil]
  rfl

/-- A table without a header has no plain values, and at least one table in it. -/
theorem hasHeader_of_values (h : ∀ m ∈ values, m.2.IsPlain)
    (hown : hasHeader (values ++ tablesOf tables) = false) : values = [] ∧ tables ≠ [] := by
  rw [hasHeader, Bool.or_eq_false_iff, List.any_append, Bool.or_eq_false_iff] at hown
  have hvalues : values = [] := by
    cases values with
    | nil => rfl
    | cons m values =>
      simp [isTable_of_isPlain (h m List.mem_cons_self)] at hown
  refine ⟨hvalues, ?_⟩
  rintro rfl
  simp [hvalues, tablesOf] at hown

end

/-! ### What is read into a table -/

/-- To change the table at the path of a header is to change what a tree is made with. -/
def Grows (header : List String) (shape : Shape) (made : Nodes → Option Nodes) : Prop :=
  ∀ (change : Change) (ns ns' tree' : Nodes), change shape ns = some ns' → made ns' = some tree' →
    ∃ tree, made ns = some tree ∧ within false header change .explicit tree = some tree'

/-- The table at the top is changed as the tree is. -/
theorem grows_root : Grows [] .explicit some := by
  intro change ns ns' tree' hchange hmade
  cases hmade
  exact ⟨ns, rfl, hchange⟩

/-- A table that has just been added is changed as the tree that it is added with would be. So a
table may be thought of as filled before it is added. -/
theorem grows_table (path : List String) (name : String) (shape : Shape) (tree : Nodes) :
    Grows (path ++ [name]) shape fun ns =>
      within false path (addNode name (.table shape ns)) .explicit tree := by
  intro change ns ns' tree' hchange hmade
  dsimp only at hmade
  rw [← addNode_fill hchange, ← within_bind] at hmade
  obtain ⟨tree₁, hfirst, hsecond⟩ := Option.bind_eq_some_iff.1 hmade
  refine ⟨tree₁, hfirst, ?_⟩
  rwa [within_append]

section

variable {made : Nodes → Option Nodes} {ns ns' : Nodes} {values : List (String × Value)}
  {tables : List (String × List (String × Value))}

/-- The lines of values add them to the table of the header. The statement starts from the whole
tree, since a value that could not be added would stop the reader. -/
theorem reads_values (hgrows : Grows header shape made) (hvalues : ∀ m ∈ values, m.2.IsPlain)
    (hns : addValues values shape ns = some ns') (hmade : made ns' = some tree') :
    ∃ tree, made ns = some tree ∧
      Reads ⟨tree, header⟩ (String.join (values.map lineText)).toList ⟨tree', header⟩ := by
  induction values generalizing ns with
  | nil =>
    cases hns
    exact ⟨tree', hmade, Reads.refl _⟩
  | cons m values ih =>
    obtain ⟨name, v⟩ := m
    obtain ⟨hv, hrest⟩ := List.forall_mem_cons.1 hvalues
    obtain ⟨ns₁, hfirst, hns⟩ := Option.bind_eq_some_iff.1 hns
    -- Backwards from the tree at the end: what is made of the rest tells the tree that the first
    -- line leads to.
    obtain ⟨tree₁, hmade₁, hreads⟩ := ih hrest hns
    obtain ⟨tree, hmade, hwithin⟩ := hgrows _ _ _ _ hfirst hmade₁
    refine ⟨tree, hmade, ?_⟩
    have hline : Reads ⟨tree, header⟩ (lineText (name, v)).toList ⟨tree₁, header⟩ :=
      Reads.line (by simp [lineText]) (readLine_value hv hwithin)
    rw [List.map_cons, String.join_cons, String.toList_append]
    exact hline.append hreads

/-- The sections of a table are read as adding the table at a path. -/
def IsAdded (path : List String) (name : String) (members : List (String × Value)) : Prop :=
  ∀ (tree tree' : Nodes) (header : List String),
    within false path (addNode name (Value.table members).node) .explicit tree = some tree' →
      ∃ header', ReadsAll ⟨tree, header⟩ ((Value.table members).sections (path ++ [name]))
        ⟨tree', header'⟩

/-- The sections of tables add them to the table of the header, each as a whole. The induction is on
the tables, and which header is open in the end depends on the last one. -/
theorem reads_tables (hgrows : Grows path shape made)
    (htables : ∀ m ∈ tables, IsAdded path m.1 m.2)
    (hns : addNodes (Value.nodes (tablesOf tables)) shape ns = some ns')
    (hmade : made ns' = some tree') :
    ∃ tree, made ns = some tree ∧ ∀ header, ∃ header',
      ReadsAll ⟨tree, header⟩ (Value.tableSections path (tablesOf tables)) ⟨tree', header'⟩ := by
  induction tables generalizing ns with
  | nil =>
    cases hns
    exact ⟨tree', hmade, fun header => ⟨header, .nil⟩⟩
  | cons m tables ih =>
    obtain ⟨name, members⟩ := m
    obtain ⟨htable, hrest⟩ := List.forall_mem_cons.1 htables
    obtain ⟨ns₁, hfirst, hns⟩ := Option.bind_eq_some_iff.1 hns
    -- Backwards, as for the values. The header that is left at the end is of no account.
    obtain ⟨tree₁, hmade₁, hreads⟩ := ih hrest hns
    obtain ⟨tree, hmade, hwithin⟩ := hgrows _ _ _ _ hfirst hmade₁
    refine ⟨tree, hmade, fun header => ?_⟩
    obtain ⟨header₁, hsections⟩ := htable tree tree₁ header hwithin
    obtain ⟨header', hothers⟩ := hreads header₁
    exact ⟨header', hsections.append hothers⟩

end

/-! ### Whole tables -/

namespace Writable

variable {levels : Nat} {values members : List (String × Value)}
  {tables : List (String × List (String × Value))}

/-- What is in a table can be added to an empty one, first its values and then its tables, because
its names are distinct. -/
theorem addNodes_tables (plain : ∀ m ∈ values, m.2.IsPlain)
    (distinct : ((values ++ tablesOf tables).map Prod.fst).Nodup) (shape : Shape)
    (hshape : shape ≠ .dotted) :
    addValues values shape [] = some (Value.nodes values) ∧
      addNodes (Value.nodes (tablesOf tables)) shape (Value.nodes values) =
        some (Value.nodes (values ++ tablesOf tables)) := by
  rw [← map_fst_nodes, nodes_append] at distinct
  have hleft : ((Value.nodes values).map Prod.fst).Nodup := by
    rw [List.map_append, List.nodup_append] at distinct
    exact distinct.1
  refine ⟨?_, ?_⟩
  · rw [addValues_eq_addNodes values hshape, ← nodes_of_plain plain]
    exact addNodes_eq_append hleft
  · rw [nodes_append]
    exact addNodes_eq_append distinct

/-- The sections of a table: one of its own if it has a header, and those of its tables. -/
theorem sections_eq (plain : ∀ m ∈ values, m.2.IsPlain) (path : List String) :
    (Value.table (values ++ tablesOf tables)).sections path =
      (if hasHeader (values ++ tablesOf tables) then
        [headerText path ++ String.join (values.map lineText)] else []) ++
      Value.tableSections path (tablesOf tables) := by
  rw [Value.sections, linesOf_eq plain, tableSections_append, tableSections_of_plain plain,
    List.nil_append]
  rfl

/-- A table with a header is opened, and then filled with its values and its tables. Opening it
makes an empty table, which is there also when there is nothing to fill it with. -/
theorem isAdded_of_header (plain : ∀ m ∈ values, m.2.IsPlain)
    (distinct : ((values ++ tablesOf tables).map Prod.fst).Nodup)
    (hown : hasHeader (values ++ tablesOf tables) = true) (hpath : path.length < greatestDepth)
    (htables : ∀ m ∈ tables, IsAdded (path ++ [name]) m.1 m.2) :
    IsAdded path name (values ++ tablesOf tables) := by
  intro tree tree' header hadd
  rw [Value.node, hown, if_pos rfl] at hadd
  have hgrows := grows_table path name .explicit tree
  obtain ⟨hvalues, hnodes⟩ := addNodes_tables plain distinct .explicit (by decide)
  -- Backwards from the whole table: first without its tables, and then without its values.
  obtain ⟨tree₂, hmade₂, hbelow⟩ := reads_tables hgrows htables hnodes hadd
  obtain ⟨tree₁, hmade₁, hlines⟩ := reads_values hgrows plain hvalues hmade₂
  obtain ⟨header', hbelow⟩ := hbelow (path ++ [name])
  have hopen : openTable path name tree = some tree₁ := openTable_of_addNode hmade₁
  have hheader : Reads ⟨tree, header⟩ (headerText (path ++ [name])).toList
      ⟨tree₁, path ++ [name]⟩ :=
    Reads.line (by simp [headerText]) (readLine_header hpath hopen)
  rw [sections_eq plain, hown, if_pos rfl]
  refine ⟨header', .cons ?_ hbelow⟩
  rw [String.toList_append]
  exact hheader.append hlines

/-- A table without a header is made by the first table in it, on the way there, and then filled
with the others. -/
theorem isAdded_of_tables (plain : ∀ m ∈ values, m.2.IsPlain)
    (distinct : ((values ++ tablesOf tables).map Prod.fst).Nodup)
    (hown : hasHeader (values ++ tablesOf tables) = false)
    (htables : ∀ m ∈ tables, IsAdded (path ++ [name]) m.1 m.2) :
    IsAdded path name (values ++ tablesOf tables) := by
  intro tree tree' header hadd
  rw [Value.node, hown, if_neg Bool.false_ne_true] at hadd
  have hgrows := grows_table path name .implicit tree
  have hnodes := (addNodes_tables plain distinct .implicit (by decide)).2
  obtain ⟨rfl, hne⟩ := hasHeader_of_values plain hown
  obtain ⟨⟨first, members⟩, tables, rfl⟩ := List.exists_cons_of_ne_nil hne
  obtain ⟨hfirst, hrest⟩ := List.forall_mem_cons.1 htables
  obtain ⟨tree₁, hmade₁, hbelow⟩ := reads_tables hgrows hrest hnodes hadd
  -- Going to the first table makes the one around it on the way.
  have hwithin : within false (path ++ [name])
      (addNode first (Value.table members).node) .explicit tree = some tree₁ := by
    rw [within_append]
    exact within_mono (fun _ _ _ => within_of_addNode rfl) hmade₁
  obtain ⟨header₁, hfirst⟩ := hfirst tree tree₁ header hwithin
  obtain ⟨header', hbelow⟩ := hbelow header₁
  rw [sections_eq plain, hown, if_neg Bool.false_ne_true, List.nil_append]
  exact ⟨header', hfirst.append hbelow⟩

/-- The sections of a table that can be written add it to the tree. The induction is on the levels
of the table; the path grows by one name as they become fewer. -/
theorem isAdded (h : Writable levels members) (path : List String) (name : String)
    (hpath : path.length + levels ≤ greatestDepth) : IsAdded path name members := by
  -- The tables in it are one level lower, and their headers one part longer.
  induction h generalizing path name with
  | @intro levels values tables plain below distinct ih =>
    have htables : ∀ m ∈ tables, IsAdded (path ++ [name]) m.1 m.2 := by
      intro m hm
      refine ih m hm (path ++ [name]) m.1 ?_
      rw [List.length_append, List.length_singleton]
      omega
    cases hown : hasHeader (values ++ tablesOf tables) with
    | true => exact isAdded_of_header plain distinct hown (by omega) htables
    | false => exact isAdded_of_tables plain distinct hown htables

/-- The text of a table makes its tree. At the top the values come first, under no header, since
behind a header they would belong to another table. -/
theorem reads_render (h : Writable levels members) (hlevels : levels ≤ greatestDepth + 1) :
    ∃ header, Reads {} (render members).toList ⟨Value.nodes members, header⟩ := by
  cases h with
  | @intro levels values tables plain below distinct =>
    have htables : ∀ m ∈ tables, IsAdded [] m.1 m.2 := by
      intro m hm
      refine (below m hm).isAdded [] m.1 ?_
      rw [List.length_nil]
      omega
    obtain ⟨hvalues, hnodes⟩ := addNodes_tables plain distinct .explicit (by decide)
    obtain ⟨_, ⟨⟩, hbelow⟩ := reads_tables grows_root htables hnodes rfl
    obtain ⟨_, ⟨⟩, hlines⟩ := reads_values grows_root plain hvalues rfl
    obtain ⟨header, hbelow⟩ := hbelow []
    refine ⟨header, ?_⟩
    -- Without values there is no first section, and nothing is read for it.
    have hfirst : ReadsAll ⟨[], []⟩
        (if String.join (values.map lineText) = "" then [] else [String.join (values.map lineText)])
        ⟨Value.nodes values, []⟩ := by
      split
      · rename_i hempty
        rw [hempty] at hlines
        rw [hlines.eq_of_nil]
        exact .nil
      · exact .cons hlines .nil
    rw [render, linesOf_eq plain, tableSections_append, tableSections_of_plain plain]
    exact (hfirst.append hbelow).reads_intercalate

/-- What is written for a table is read as that table. Settings are written and loaded by this, with
three levels of the many that may be read. -/
theorem parse_render (h : Writable levels members) (hlevels : levels ≤ greatestDepth + 1) :
    parse (render members) = some members := by
  obtain ⟨header, hreads⟩ := h.reads_render hlevels
  have hread := hreads.readDocument_eq (Nat.lt_succ_self _)
  have hmark : (render members).toList.head? ≠ some '\uFEFF' := by
    intro hhead
    obtain ⟨r, htext⟩ := List.head?_eq_some_iff.1 hhead
    rw [htext, readDocument_mark] at hread
    cases hread
  unfold parse
  dsimp only
  rw [if_neg hmark, hread]
  exact congrArg some (Value.membersValue_nodes members)

end Writable

end DeviceRegistry.Toml
