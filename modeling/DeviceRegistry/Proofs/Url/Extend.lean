import DeviceRegistry.Url.Basic

/-!
# `DeviceRegistry.Proofs.Url.Extend`: segments that are appended to a path

Appending passes over a dot and two dots, and encodes what a segment cannot hold. A segment of plain
characters that is none of the two is appended as it stands. Main statements:

* `pushSegment_of_isSegment`, `pushSegment_of_isDot`: what one segment adds.
* `extend_eq`: a path is extended by its segments without the dots among them.
* `text_injective`: the text of a path tells its segments.
-/

set_option autoImplicit false

namespace DeviceRegistry.Url

variable {c : Char} {s : String} {file : Bool} {set : EncodeSet} {items : List String} {u : Url}

/-! ### Plain characters -/

/-- A character that stands for itself wherever it is in a path. -/
def IsPlain (c : Char) : Prop :=
  ('a' ≤ c ∧ c ≤ 'z') ∨ ('A' ≤ c ∧ c ≤ 'Z') ∨ ('0' ≤ c ∧ c ≤ '9') ∨
    c ∈ ['-', '.', '_', '~', '!', '$', '&', '\'', '(', ')', '*', '+', ',', ';', '=', ':', '@']

instance : DecidablePred IsPlain := fun _ => inferInstanceAs (Decidable (_ ∨ _))

/-- Whether the characters of a list are ASCII is found by evaluation. -/
theorem toNat_lt_of_mem {l : List Char} (hl : l.all (fun c => decide (c.toNat < 128)) = true)
    (h : c ∈ l) : c.toNat < 128 :=
  of_decide_eq_true (List.all_eq_true.1 hl c h)

/-- A plain character is one of the first 128, so what is said of all of these can be evaluated. -/
theorem IsPlain.exists_ofNat (h : IsPlain c) : ∃ n : Fin 128, c = Char.ofNat n := by
  have hlt : c.toNat < 128 := by
    rcases h with ⟨-, h⟩ | ⟨-, h⟩ | ⟨-, h⟩ | h
    · exact Nat.lt_of_le_of_lt (Char.le_def.1 h) (by decide)
    · exact Nat.lt_of_le_of_lt (Char.le_def.1 h) (by decide)
    · exact Nat.lt_of_le_of_lt (Char.le_def.1 h) (by decide)
    · exact toNat_lt_of_mem rfl h
  exact ⟨⟨c.toNat, hlt⟩, (Char.ofNat_toNat c).symm⟩

/-- No part of reading a path treats a plain character in a way of its own, a dot apart. It is
neither encoded nor left out, and starts nothing. -/
theorem IsPlain.stands (h : IsPlain c) :
    isEncoded segmentSet c = false ∧ isEncoded specialSegmentSet c = false ∧
      isIgnored c = false ∧ c.toLower ≠ '%' ∧ (c.toLower = '.' → c = '.') ∧ c ≠ '|' ∧ c ≠ '/' := by
  -- Plain characters are ASCII, so there are only so many.
  obtain ⟨n, rfl⟩ := h.exists_ofNat
  revert n
  decide

/-! ### Plain segments -/

/-- A text that is one segment of a path as it stands: plain characters, and no dots only. -/
structure IsSegment (s : String) : Prop where
  plain : ∀ c ∈ s.toList, IsPlain c
  nonempty : s ≠ ""
  notDot : s ≠ "."
  notDots : s ≠ ".."

instance : DecidablePred IsSegment := fun s =>
  decidable_of_iff
    (s.toList.all (fun c => decide (IsPlain c)) = true ∧ s ≠ "" ∧ s ≠ "." ∧ s ≠ "..")
    ⟨fun h => ⟨fun c hc => of_decide_eq_true (List.all_eq_true.1 h.1 c hc), h.2.1, h.2.2.1,
        h.2.2.2⟩,
      fun h => ⟨List.all_eq_true.2 fun c hc => decide_eq_true (h.plain c hc), h.nonempty, h.notDot,
        h.notDots⟩⟩

/-- The segments that are passed over when they are appended. -/
def IsDot (s : String) : Prop := s = "." ∨ s = ".."

instance : DecidablePred IsDot := fun _ => inferInstanceAs (Decidable (_ ∨ _))

namespace IsSegment

/-- A path that ends with a plain segment is not the empty one. -/
theorem append_ne (h : IsSegment s) : items ++ [s] ≠ [""] := by
  intro hempty
  have hlast := congrArg List.getLast? hempty
  simp only [List.getLast?_concat, List.getLast?_singleton, Option.some.injEq] at hlast
  exact h.nonempty hlast

/-- Nothing in a plain segment is left out: tabs and line ends are dropped from a URL, and it has
none of those. -/
theorem withoutIgnored (h : IsSegment s) : Url.withoutIgnored s.toList = s.toList := by
  refine List.filter_eq_self.2 fun c hc => ?_
  rw [(h.plain c hc).stands.2.2.1]
  rfl

/-- Nothing in a plain segment is encoded, by either set of characters that is used for segments. -/
theorem percentEncode (h : IsSegment s) (hset : set = segmentSet ∨ set = specialSegmentSet) :
    Url.percentEncode set s.toList = s := by
  have hchar : ∀ c ∈ s.toList, encodeChar set c = [c] := by
    intro c hc
    obtain ⟨hencoded, hspecial, -⟩ := (h.plain c hc).stands
    rcases hset with rfl | rfl
    · rw [encodeChar, hencoded]
      rfl
    · rw [encodeChar, hspecial]
      rfl
  rw [Url.percentEncode, List.flatMap_def, List.map_congr_left hchar, ← List.flatMap_def,
    List.flatMap_singleton', String.ofList_toList]

/-- In lower case, a plain segment has no encoded characters, and dots only if it has them. -/
theorem lower_eq (h : IsSegment s) {l : List Char} (hl : s.toList.map Char.toLower = l) :
    '%' ∉ l ∧ (l.all (· == '.') = true → s = String.ofList l) := by
  subst hl
  constructor
  · intro hmem
    obtain ⟨c, hc, hlower⟩ := List.mem_map.1 hmem
    exact (h.plain c hc).stands.2.2.2.1 hlower
  · intro hdots
    have hsame : ∀ c ∈ s.toList, c.toLower = id c := by
      intro c hc
      have hdot := eq_of_beq (List.all_eq_true.1 hdots _ (List.mem_map_of_mem hc))
      rw [hdot, id, (h.plain c hc).stands.2.2.2.2.1 hdot]
    rw [List.map_congr_left hsame, List.map_id, String.ofList_toList]

/-- A plain segment names no place by dots, in whatever spelling: encoded dots would need a percent
sign. So it is not dropped, and takes none of the others away. -/
theorem not_isDot (h : IsSegment s) : isDoubleDot s = false ∧ isSingleDot s = false := by
  have hlower : ∀ t : String, String.ofList (s.toList.map Char.toLower) = t →
      '%' ∉ t.toList ∧ (t.toList.all (· == '.') = true → s = t) := by
    rintro t rfl
    rw [String.toList_ofList]
    exact h.lower_eq rfl
  -- Three of the four spellings of two dots, and one of the two of a dot, have a percent sign.
  constructor
  · refine Bool.eq_false_iff.2 fun hdots => ?_
    simp only [isDoubleDot, List.contains_eq_mem, decide_eq_true_eq, List.mem_cons,
      List.not_mem_nil, or_false] at hdots
    rcases hdots with hdots | hdots | hdots | hdots
    · exact h.notDots ((hlower _ hdots).2 rfl)
    all_goals exact (hlower _ hdots).1 (by decide)
  · refine Bool.eq_false_iff.2 fun hdot => ?_
    simp only [isSingleDot, List.contains_eq_mem, decide_eq_true_eq, List.mem_cons,
      List.not_mem_nil, or_false] at hdot
    rcases hdot with hdot | hdot
    · exact h.notDot ((hlower _ hdot).2 rfl)
    · exact (hlower _ hdot).1 (by decide)

/-- A plain segment holds no drive with a slash behind it. A drive would be set apart when a path is
taken apart, and so this is one of the ways to lose a segment. -/
theorem splitDrive? (h : IsSegment s) : Url.splitDrive? s.toList = none := by
  have hgap : ∀ c ∈ s.toList, isIgnored c = false := fun c hc => (h.plain c hc).stands.2.2.1
  unfold Url.splitDrive?
  split
  · rename_i a r ha
    split
    · rename_i gap rest hr
      -- Whatever follows the colon is a character of the segment, and so is not passed over.
      have hmem : gap ∈ s.toList := by
        have hgapr : gap ∈ r.dropWhile isIgnored := by
          rw [hr]
          simp
        have hrest : a :: r <:+ s.toList := ha ▸ List.dropWhile_suffix _
        exact hrest.subset (List.mem_cons_of_mem _ ((List.dropWhile_suffix _).subset hgapr))
      rw [hgap gap hmem, Bool.and_false, Bool.false_and, if_neg (by decide)]
    · rfl
  · rfl

/-- A drive that is a plain segment is written as it stands, with a colon and no bar. -/
theorem of_driveLetter? (h : IsSegment s) {a : Char} (ha : driveLetter? s.toList = some a) :
    String.ofList [a, ':'] = s := by
  have hplain := h.plain
  unfold driveLetter? at ha
  split at ha
  · rename_i x y hs
    split at ha
    · rename_i hdrive
      cases ha
      have hbar : y ≠ '|' := (hplain y (by rw [hs]; simp)).stands.2.2.2.2.2.1
      have hcolon : y = ':' := by simpa [hbar] using (Bool.and_eq_true_iff.1 hdrive).2
      rw [← hcolon, ← hs, String.ofList_toList]
    · cases ha
  · cases ha

/-- A plain segment is read as a place below, wherever it stands. None of the rules for dots, drives
and encoding changes it. -/
theorem step (h : IsSegment s) (hset : set = segmentSet ∨ set = specialSegmentSet) :
    (Trail.step file set true { items } s.toList).items = items ++ [s] := by
  obtain ⟨hdots, hdot⟩ := h.not_isDot
  unfold Trail.step
  rw [h.withoutIgnored, h.percentEncode hset, h.splitDrive?]
  dsimp only
  rw [hdots, hdot, if_neg Bool.false_ne_true, if_neg Bool.false_ne_true]
  split
  · split
    · rename_i a ha
      rw [Trail.down, h.of_driveLetter? ha]
    · rename_i hnone
      cases hnone
    · rfl
  · rfl

end IsSegment

/-! ### Extending -/

/-- The segments of a path that others are appended to: an empty last one does not count, nor does
the only one if it is empty. -/
def openEnd (items : List String) : List String :=
  if dropEmptyLast items = [""] then [] else dropEmptyLast items

/-- A dot or two dots are passed over and leave the path as it is. This is where two addresses can
become one. -/
theorem pushSegment_of_isDot (h : IsDot s) : pushSegment file set items s = items :=
  if_pos h

/-- A plain segment is appended, and takes the place of an empty path. -/
theorem pushSegment_of_isSegment (h : IsSegment s)
    (hset : set = segmentSet ∨ set = specialSegmentSet) :
    pushSegment file set items s = (if items = [""] then [] else items) ++ [s] := by
  have hdot : ¬ (s = "." ∨ s = "..") := fun hs => hs.elim h.notDot h.notDots
  rw [pushSegment, if_neg hdot]
  exact h.step hset

/-- Behind a segment, all that follows is appended, the dots apart, since the path is not empty any
more. -/
theorem foldl_pushSegment {l : List String} (hset : set = segmentSet ∨ set = specialSegmentSet)
    (hl : ∀ s ∈ l, IsSegment s ∨ IsDot s) (hitems : items ≠ [""]) :
    l.foldl (pushSegment file set) items = items ++ l.filter (¬ IsDot ·) := by
  induction l generalizing items with
  | nil => simp
  | cons s l ih =>
    have hrest : ∀ s ∈ l, IsSegment s ∨ IsDot s := fun x hx => hl x (List.mem_cons_of_mem _ hx)
    rw [List.foldl_cons]
    rcases hl s List.mem_cons_self with hs | hs
    · have hno : ¬ IsDot s := fun hdot => hdot.elim hs.notDot hs.notDots
      rw [pushSegment_of_isSegment hs hset, if_neg hitems, ih hrest, List.filter_cons,
        if_pos (by simpa using hno), List.append_assoc, List.singleton_append]
      exact hs.append_ne
    · rw [pushSegment_of_isDot hs, ih hrest hitems, List.filter_cons, if_neg (by simpa using hs)]

/-- A path is extended by a segment and all that follows it, the dots apart. Nothing else of the URL
changes. -/
theorem extend_eq {l : List String} (hpath : u.path = .segments items) (hs : IsSegment s)
    (hl : ∀ s ∈ l, IsSegment s ∨ IsDot s) :
    u.extend (s :: l) =
      some { u with path := .segments (openEnd items ++ s :: l.filter (¬ IsDot ·)) } := by
  have hset : (if isSpecial u.scheme then specialSegmentSet else segmentSet) = segmentSet ∨
      (if isSpecial u.scheme then specialSegmentSet else segmentSet) = specialSegmentSet := by
    split
    · exact .inr rfl
    · exact .inl rfl
  -- The empty path is kept until the first segment takes its place.
  have hopen : (if (if items = [""] then items else dropEmptyLast items) = [""] then []
      else if items = [""] then items else dropEmptyLast items) = openEnd items := by
    unfold openEnd
    by_cases hempty : items = [""]
    · subst hempty
      rfl
    · rw [if_neg hempty]
  unfold extend
  rw [hpath]
  dsimp only
  rw [List.foldl_cons, pushSegment_of_isSegment hs hset, hopen,
    foldl_pushSegment hset hl hs.append_ne, List.append_assoc, List.singleton_append]

/-! ### The text of a path -/

/-- The text of a path starts with a slash and its first segment. -/
theorem text_cons (s : String) (l : List String) :
    (UrlPath.segments (s :: l)).text.toList =
      '/' :: (s.toList ++ (UrlPath.segments l).text.toList) := by
  have hslash : "/".toList = ['/'] := rfl
  simp [UrlPath.text, String.join_cons, hslash]

/-- The text of a path up to its first slash is the first segment, which has no slash itself. -/
theorem takeWhile_text (hs : '/' ∉ s.toList) (l : List String) :
    (s.toList ++ (UrlPath.segments l).text.toList).takeWhile (· ≠ '/') = s.toList := by
  have hall : ∀ c ∈ s.toList, decide (c ≠ '/') = true := by
    intro c hc
    exact decide_eq_true fun he => hs (he ▸ hc)
  rw [List.takeWhile_append_of_pos hall]
  cases l with
  | nil => exact List.append_nil _
  | cons a l =>
    rw [text_cons, List.takeWhile_cons, if_neg (by decide), List.append_nil]

/-- The text of a path tells its segments, when no slash is part of them. They are read off one by
one. -/
theorem text_injective {l r : List String} (hl : ∀ s ∈ l, '/' ∉ s.toList)
    (hr : ∀ s ∈ r, '/' ∉ s.toList)
    (h : (UrlPath.segments l).text.toList = (UrlPath.segments r).text.toList) : l = r := by
  induction l generalizing r with
  | nil =>
    cases r with
    | nil => rfl
    | cons b r =>
      rw [text_cons] at h
      cases h
  | cons a l ih =>
    cases r with
    | nil =>
      rw [text_cons] at h
      cases h
    | cons b r =>
      rw [text_cons, text_cons, List.cons.injEq] at h
      have hfirst := congrArg (List.takeWhile (· ≠ '/')) h.2
      rw [takeWhile_text (hl a List.mem_cons_self), takeWhile_text (hr b List.mem_cons_self)]
        at hfirst
      -- The first segments are the same, and so are the texts behind them.
      obtain rfl : a = b := String.toList_injective hfirst
      rw [List.append_cancel_left_eq] at h
      rw [ih (fun s hs => hl s (List.mem_cons_of_mem _ hs))
        (fun s hs => hr s (List.mem_cons_of_mem _ hs)) h.2]

/-- The text of a URL tells what its path was extended by, because all that comes before and behind
is the same. -/
theorem eq_of_render_eq {l r : List String} (hl : ∀ s ∈ l, '/' ∉ s.toList)
    (hr : ∀ s ∈ r, '/' ∉ s.toList)
    (h : ({ u with path := .segments (items ++ l) } : Url).render =
      ({ u with path := .segments (items ++ r) } : Url).render) : l = r := by
  have hauthority : ∀ p, ({ u with path := p } : Url).authority = u.authority := fun _ => rfl
  have happend : ∀ l, (UrlPath.segments (items ++ l)).text =
      (UrlPath.segments items).text ++ (UrlPath.segments l).text := by
    intro l
    simp [UrlPath.text, String.join_append]
  simp only [render, hauthority, happend] at h
  have hlist := congrArg String.toList h
  simp only [String.toList_append, List.append_cancel_left_eq, ← List.append_assoc,
    List.append_cancel_right_eq] at hlist
  exact text_injective hl hr hlist

end DeviceRegistry.Url
