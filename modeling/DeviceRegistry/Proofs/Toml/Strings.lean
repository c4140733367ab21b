import DeviceRegistry.Proofs.Steps
import DeviceRegistry.Toml.Printer

/-!
# `DeviceRegistry.Proofs.Toml.Strings`: strings are read back

What the printer writes for a string at the end of a line is read as that string. It chooses between
four forms: on one line or between three quotes, with escapes or without. What may stand between
three quotes is the same for both kinds of them (`Inside`), so they are read alike. Main statements:

* `readBasic_escapeAll`, `readLiteral_append`: strings of one line.
* `Inside.readLines`: strings between three quotes.
* `inside_escapeAll`, `inside_self`: what the printer puts between three quotes may stand there.
* `readString_stringText`: any string.
-/

set_option autoImplicit false

namespace DeviceRegistry.Toml

variable {x : Char} {s r t cs : List Char} {lines : Bool} {fuel : Nat}

/-! ### Escapes -/

/-- A digit to the base sixteen is read in upper case as well. -/
theorem hexValue?_toUpper {n : Nat} (h : n < 16) :
    Text.hexValue? (Text.hexDigit n).toUpper = some n := by
  have hall : ∀ n : Fin 16, Text.hexValue? (Text.hexDigit n).toUpper = some n.val := by decide
  exact hall ⟨n, h⟩

/-- A character is read by its number in four digits, every character with such a number being one
that may be escaped. -/
theorem readCodePoint_four (hlength : s.length = 4) (hnumber : Text.hexNumber? s = some x.toNat) :
    readCodePoint 4 (s ++ r) = some (x, r) := by
  have hlong : ¬ (s ++ r).length < 4 := by
    rw [List.length_append]
    omega
  have hvalid : x.toNat < 0xD800 ∨ (0xE000 ≤ x.toNat ∧ x.toNat < 0x110000) := by
    rcases x.valid with h | h
    · exact .inl h
    · exact .inr ⟨Nat.succ_le_of_lt h.1, h.2⟩
  simp only [readCodePoint, if_neg hlong, List.take_left' hlength, List.drop_left' hlength, hnumber]
  show (if _ then _ else _) = _
  rw [if_pos hvalid, Char.ofNat_toNat]

/-- The escape of a small character by its number is read as that character. Control characters that
have no letter are written like this. -/
theorem readEscape_number (hx : x.toNat < 0x80) :
    readEscape (['u', '0', '0', (Text.hexDigit (x.toNat / 16)).toUpper,
      (Text.hexDigit (x.toNat % 16)).toUpper] ++ r) = some (x, r) := by
  have hhigh := hexValue?_toUpper (show x.toNat / 16 < 16 by omega)
  have hlow := hexValue?_toUpper (show x.toNat % 16 < 16 by omega)
  have hzero : Text.hexValue? '0' = some 0 := rfl
  show readCodePoint 4 (['0', '0', _, _] ++ r) = some (x, r)
  refine readCodePoint_four rfl ?_
  simp only [Text.hexNumber?, List.foldlM_cons, List.foldlM_nil, hzero, hhigh, hlow,
    Option.map_some, Option.bind_eq_bind, Option.bind_some, pure]
  congr 1
  omega

/-- Only line ends and control characters cannot stand in a line, so whatever the printer does not
escape may. -/
theorem isPrintable_of_not_control (h : isControl x = false) (hx : x ≠ '\n') :
    isPrintable x = true := by
  simp only [isControl, isPrintable, Bool.or_eq_false_iff, Bool.and_eq_false_iff, Bool.or_eq_true,
    Bool.and_eq_true, decide_eq_true_eq, decide_eq_false_iff_not, bne_eq_false_iff_eq,
    beq_eq_false_iff_ne] at h ⊢
  by_cases htab : x = '\t'
  · exact .inl htab
  · have hlarge : ¬ x.toNat < 0x20 := (h.1.resolve_right hx).resolve_right htab
    exact .inr ⟨Nat.not_lt.1 hlarge, h.2⟩

/-- A character that is no quote is written as it is, or behind a backslash. In the first case it
may stand there, and in the second it is read back. -/
theorem escape?_cases (hx : x ≠ '"') :
    (escape? lines x = none ∧ x ≠ '\\' ∧ (isPrintable x = true ∨ lines = true ∧ x = '\n')) ∨
    ∃ y t, escape? lines x = some (String.ofList ('\\' :: y :: t)) ∧
      y ∉ [' ', '\t', '\n', '\r'] ∧ ∀ r, readEscape (y :: (t ++ r)) = some (x, r) := by
  unfold escape?
  split
  -- Five characters have a letter of their own, and a line end has one on one line only.
  · exact .inr ⟨'b', [], rfl, by decide, fun _ => rfl⟩
  · exact .inr ⟨'t', [], rfl, by decide, fun _ => rfl⟩
  · cases lines with
    | true => exact .inl ⟨rfl, by decide, .inr ⟨rfl, rfl⟩⟩
    | false => exact .inr ⟨'n', [], rfl, by decide, fun _ => rfl⟩
  · exact .inr ⟨'f', [], rfl, by decide, fun _ => rfl⟩
  · exact .inr ⟨'r', [], rfl, by decide, fun _ => rfl⟩
  · exact .inr ⟨'\\', [], rfl, by decide, fun _ => rfl⟩
  · rename_i htab hline _ _ hbackslash
    by_cases hcontrol : isControl x = true
    · have hsmall : x.toNat < 0x80 := by
        simp only [isControl, Bool.or_eq_true, Bool.and_eq_true, decide_eq_true_eq,
          beq_iff_eq] at hcontrol
        omega
      rw [if_pos hcontrol]
      exact .inr ⟨'u', _, rfl, by decide, fun r => readEscape_number hsmall⟩
    · rw [if_neg hcontrol]
      have hprint := isPrintable_of_not_control (by simpa using hcontrol) hline
      exact .inl ⟨rfl, hbackslash, .inl hprint⟩

/-! ### Strings of one line -/

/-- What is written for a character that is no quote. -/
def piece (lines : Bool) (x : Char) : List Char := ((escape? lines x).getD x.toString).toList

/-- What is written for a character that is no quote: the two cases of `escape?_cases`, as
characters. -/
theorem piece_cases (lines : Bool) (hx : x ≠ '"') :
    (piece lines x = [x] ∧ x ≠ '\\' ∧ (isPrintable x = true ∨ lines = true ∧ x = '\n')) ∨
    ∃ y t, piece lines x = '\\' :: y :: t ∧
      y ∉ [' ', '\t', '\n', '\r'] ∧ ∀ r, readEscape (y :: (t ++ r)) = some (x, r) := by
  rcases @escape?_cases x lines hx with ⟨hnone, h⟩ | ⟨y, t, hsome, h⟩
  · refine .inl ⟨?_, h⟩
    rw [piece, hnone]
    exact String.toList_singleton x
  · refine .inr ⟨y, t, ?_, h⟩
    rw [piece, hsome]
    exact String.toList_ofList

/-- A character that is no quote is written on its own, and ends a run of quotes. -/
theorem toList_escapeAll_cons (quotes run : Nat) (hx : x ≠ '"') :
    (escapeAll lines quotes run (x :: s)).toList =
      piece lines x ++ (escapeAll lines quotes 0 s).toList := by
  rw [escapeAll, String.toList_append]
  · rfl
  · exact hx

/-- A quote is written as it is while the run is short enough, and else behind a backslash, where a
new run starts. -/
theorem toList_escapeAll_quote (quotes run : Nat) :
    (escapeAll lines quotes run ('"' :: s)).toList =
      if run < quotes then '"' :: (escapeAll lines quotes (run + 1) s).toList
      else '\\' :: '"' :: (escapeAll lines quotes 0 s).toList := by
  rw [escapeAll]
  split <;> rw [String.toList_append] <;> rfl

/-- Nothing is written for less than one character, so the length of what is written is fuel enough.
Escapes make a text longer and never shorter. -/
theorem length_le_escapeAll (lines : Bool) (quotes run : Nat) (s : List Char) :
    s.length ≤ (escapeAll lines quotes run s).toList.length := by
  induction s generalizing run with
  | nil => exact Nat.zero_le _
  | cons x s ih =>
    by_cases hx : x = '"'
    · subst hx
      have hzero := ih 0
      have hnext := ih (run + 1)
      rw [toList_escapeAll_quote]
      split <;> simp only [List.length_cons] <;> omega
    · have hzero := ih 0
      have hpiece : 0 < (piece lines x).length := by
        rcases piece_cases lines hx with ⟨h, -⟩ | ⟨y, t, h, -⟩ <;>
        · rw [h]
          exact Nat.zero_lt_succ _
      rw [toList_escapeAll_cons quotes run hx, List.length_append, List.length_cons]
      omega

/-- An escape is read as one character of a string. It takes one step, whatever its length is. -/
theorem readBasic_escaped (h : readEscape s = some (x, t)) :
    readBasic (fuel + 1) ('\\' :: s) = (readBasic fuel t).map fun (cs, r) => (x :: cs, r) := by
  rw [readBasic, h]
  show (readBasic fuel t >>= fun p => some (x :: p.1, p.2)) = _
  cases readBasic fuel t <;> rfl

/-- A character that may stand in a string is read as it is. -/
theorem readBasic_printable (hquote : x ≠ '"') (hback : x ≠ '\\') (hx : isPrintable x = true) :
    readBasic (fuel + 1) (x :: s) = (readBasic fuel s).map fun (cs, r) => (x :: cs, r) := by
  rw [readBasic, if_pos hx]
  · cases readBasic fuel s <;> rfl
  · exact hquote
  · exact hback

/-- A string with escapes is read up to its quote. No quote stands in it as it is, as runs of quotes
are given no length here. -/
theorem readBasic_escapeAll (hfuel : s.length < fuel) :
    readBasic fuel ((escapeAll false 0 0 s).toList ++ '"' :: r) = some (s, r) := by
  induction s generalizing fuel with
  | nil =>
    obtain ⟨fuel, rfl⟩ := Nat.exists_eq_add_one_of_ne_zero (Nat.ne_zero_of_lt hfuel)
    rfl
  | cons x s ih =>
    obtain ⟨fuel, rfl⟩ := Nat.exists_eq_add_one_of_ne_zero (Nat.ne_zero_of_lt hfuel)
    have hrest := ih (Nat.lt_of_succ_lt_succ hfuel)
    -- A quote is escaped, and so are some other characters; the rest is read as it is.
    by_cases hx : x = '"'
    · subst hx
      rw [toList_escapeAll_quote, if_neg (Nat.not_lt_zero 0), List.cons_append,
        readBasic_escaped rfl, List.append_eq, hrest]
      rfl
    · rw [toList_escapeAll_cons 0 0 hx, List.append_assoc]
      rcases piece_cases false hx with ⟨hpiece, hback, hprint⟩ | ⟨y, t, hpiece, -, hescape⟩
      · have hx' : isPrintable x = true := hprint.resolve_right fun h => nomatch h.1
        rw [hpiece, List.singleton_append, readBasic_printable hx hback hx', hrest]
        rfl
      · rw [hpiece, List.cons_append, List.cons_append, readBasic_escaped (hescape _), hrest]
        rfl

/-- A string without escapes is read up to its quote. Every character in it stands for itself, even
a backslash. -/
theorem readLiteral_append (h : ∀ x ∈ s, isPrintable x = true ∧ x ≠ '\'') :
    readLiteral (s ++ '\'' :: r) = some (s, r) := by
  induction s with
  | nil => rfl
  | cons x s ih =>
    obtain ⟨⟨hprint, hquote⟩, hrest⟩ := List.forall_mem_cons.1 h
    rw [List.cons_append, readLiteral, if_pos hprint, ih hrest]
    · rfl
    · exact hquote

/-! ### Strings between three quotes -/

/-- The quotes at the start of a text. -/
def leading (quote : Char) (t : List Char) : Nat := (t.takeWhile (· = quote)).length

/-- A text between three quotes, and the characters that it stands for: at most two quotes side by
side, line ends and characters as they are, and escapes if there may be any. -/
inductive Inside (quote : Char) (escapes : Bool) : List Char → List Char → Prop
  | nil : Inside quote escapes [] []
  | quote {t cs : List Char} (few : leading quote t ≤ 1) (rest : Inside quote escapes t cs) :
    Inside quote escapes (quote :: t) (quote :: cs)
  | lineEnd {t cs : List Char} (rest : Inside quote escapes t cs) :
    Inside quote escapes ('\n' :: t) ('\n' :: cs)
  | char {x : Char} {t cs : List Char} (printable : isPrintable x = true) (other : x ≠ quote)
    (plain : escapes = true → x ≠ '\\') (rest : Inside quote escapes t cs) :
    Inside quote escapes (x :: t) (x :: cs)
  | escape {x y : Char} {e t cs : List Char} (may : escapes = true)
    (visible : y ∉ [' ', '\t', '\n', '\r'])
    (reads : ∀ r, readEscape (y :: (e ++ r)) = some (x, r)) (rest : Inside quote escapes t cs) :
    Inside quote escapes ('\\' :: y :: (e ++ t)) (x :: cs)

/-- A quote for strings of several lines. -/
def IsQuote (quote : Char) : Prop := quote = '"' ∨ quote = '\''

section

variable {quote : Char} {escapes : Bool}

namespace IsQuote

/-- A line end is no quote. So strings with several lines do not end with a line. -/
theorem lineEnd_ne (h : IsQuote quote) : '\n' ≠ quote := by rcases h with rfl | rfl <;> decide

/-- A backslash is no quote. So an escape is not taken for the end of a string. -/
theorem backslash_ne (h : IsQuote quote) : '\\' ≠ quote := by rcases h with rfl | rfl <;> decide

/-- A quote may stand in a line, and between three quotes of the other kind or its own. -/
theorem isPrintable (h : IsQuote quote) : isPrintable quote = true := by
  rcases h with rfl | rfl <;> decide

end IsQuote

/-- One more quote in front makes the run at the start longer by one. -/
theorem leading_cons_self (quote : Char) (t : List Char) :
    leading quote (quote :: t) = leading quote t + 1 := by
  simp [leading]

/-- Any other character in front leaves no run at the start. -/
theorem leading_cons_other (hx : x ≠ quote) : leading quote (x :: t) = 0 := by
  simp [leading, hx]

/-- A run of quotes that ends inside a text does not depend on what follows the text. -/
theorem leading_append_of_lt (h : leading quote t < t.length) :
    leading quote (t ++ r) = leading quote t := by
  induction t with
  | nil => cases h
  | cons x t ih =>
    by_cases hx : x = quote
    · subst hx
      rw [leading_cons_self, List.length_cons] at h
      rw [List.cons_append, leading_cons_self, leading_cons_self, ih (Nat.lt_of_succ_lt_succ h)]
    · rw [List.cons_append, leading_cons_other hx, leading_cons_other hx]

/-- Quotes that something else follows are a run of as many. -/
theorem leading_replicate (n : Nat) (hr : r.head? ≠ some quote) :
    leading quote (List.replicate n quote ++ r) = n := by
  induction n with
  | zero =>
    cases r with
    | nil => rfl
    | cons x r => exact leading_cons_other fun h => hr (congrArg some h)
  | succ n ih => rw [List.replicate_succ, List.cons_append, leading_cons_self, ih]

namespace Inside

/-- No more than two quotes stand side by side, so three of them end the string. -/
theorem leading_le (h : Inside quote escapes t cs) (hquote : IsQuote quote) :
    leading quote t ≤ 2 := by
  have hother : ∀ {x t}, x ≠ quote → leading quote (x :: t) ≤ 2 := by
    intro x t hx
    rw [leading_cons_other hx]
    exact Nat.zero_le _
  cases h with
  | nil => exact Nat.zero_le _
  | quote hfew _ =>
    rw [leading_cons_self]
    omega
  | lineEnd _ => exact hother hquote.lineEnd_ne
  | char _ hx _ _ => exact hother hx
  | escape _ _ _ _ => exact hother hquote.backslash_ne

/-- Quotes stand for themselves: what is left of a text, when there is nothing but quotes in it, is
the same as the characters that are left. -/
theorem eq_replicate (h : Inside quote escapes t cs) (hquote : IsQuote quote)
    (hall : t.length ≤ leading quote t) : cs = List.replicate t.length quote ∧
      t = List.replicate t.length quote := by
  have hother : ∀ {x : Char} {t}, x ≠ quote → ¬ (x :: t).length ≤ leading quote (x :: t) := by
    intro x t hx
    rw [leading_cons_other hx]
    exact Nat.not_succ_le_zero _
  induction h with
  | nil => exact ⟨rfl, rfl⟩
  | @quote t cs _ _ ih =>
    rw [leading_cons_self, List.length_cons] at hall
    obtain ⟨hcs, ht⟩ := ih (Nat.le_of_succ_le_succ hall)
    rw [List.length_cons, List.replicate_succ]
    exact ⟨congrArg _ hcs, congrArg _ ht⟩
  | lineEnd _ => exact absurd hall (hother hquote.lineEnd_ne)
  | char _ hx _ _ => exact absurd hall (hother hx)
  | escape _ _ _ _ => exact absurd hall (hother hquote.backslash_ne)

/-- At the quotes that end a text the reader is done. Up to two quotes of the text may come before
the three that end it. -/
theorem closingQuotes?_replicate {n : Nat} (hn : n ≤ 2) (hr : r.head? ≠ some quote) :
    closingQuotes? quote (List.replicate n quote ++ (List.replicate 3 quote ++ r)) =
      some (List.replicate n quote, r) := by
  have hquotes : List.replicate n quote ++ (List.replicate 3 quote ++ r) =
      List.replicate (n + 3) quote ++ r := by
    rw [← List.append_assoc, List.replicate_append_replicate]
  have hleading : ((List.replicate (n + 3) quote ++ r).takeWhile (· = quote)).length = n + 3 :=
    leading_replicate (n + 3) hr
  have hmin : min (n + 3) 5 - 3 = n := by omega
  rw [hquotes, closingQuotes?, hleading]
  dsimp only
  rw [if_pos (Nat.le_add_left 3 n), hmin, List.drop_left' (by simp)]

/-- At quotes inside a text the reader is not done: fewer than three of them stand there. -/
theorem closingQuotes?_none (hfew : leading quote t ≤ 2) (hsome : leading quote t < t.length) :
    closingQuotes? quote (t ++ r) = none := by
  have hleading : ((t ++ r).takeWhile (· = quote)).length = leading quote t :=
    leading_append_of_lt hsome
  rw [closingQuotes?, hleading]
  exact if_neg (by omega)

end Inside

/-- What is neither of the two characters that end a line ends none. A string in quotes is read
character by character, and this is asked at each of them. -/
theorem afterLineEnd?_cons (hline : x ≠ '\n') (hreturn : x ≠ '\r') :
    afterLineEnd? (x :: r) = none := by
  unfold afterLineEnd?
  split
  · rename_i h
    cases h
    exact absurd rfl hline
  · rename_i h
    cases h
    exact absurd rfl hreturn
  · rfl

/-- What can be printed ends no line. The two characters that do are not printable. -/
theorem afterLineEnd?_printable (hx : isPrintable x = true) : afterLineEnd? (x :: r) = none := by
  refine afterLineEnd?_cons ?_ ?_ <;>
  · rintro rfl
    exact absurd hx (by decide)

/-- Something else than a quote does not end a string. So reading goes on with the next character.
-/
theorem closingQuotes?_cons_other (hx : x ≠ quote) : closingQuotes? quote (x :: s) = none := by
  have hleading : ((x :: s).takeWhile (· = quote)).length = 0 := leading_cons_other hx
  rw [closingQuotes?, hleading]
  rfl

/-- The quotes that end a string are read with those that belong to it. -/
theorem readLines_closing (hclose : closingQuotes? quote s = some (cs, r)) :
    readLines quote escapes (fuel + 1) s = some (cs, r) := by
  rw [readLines.eq_def]
  simp only [hclose]

/-- A line end between three quotes is read as itself. Such strings are the only ones that may have
line ends. -/
theorem readLines_lineEnd (hquote : '\n' ≠ quote) :
    readLines quote escapes (fuel + 1) ('\n' :: s) =
      (readLines quote escapes fuel s).map fun (cs, r) => ('\n' :: cs, r) := by
  rw [readLines.eq_def]
  simp only [closingQuotes?_cons_other hquote]
  rfl

/-- A character between three quotes is read as itself, when it may be printed and starts no
escape. -/
theorem readLines_char (hclose : closingQuotes? quote (x :: s) = none)
    (hx : isPrintable x = true) (hplain : ¬ (x = '\\' ∧ escapes = true)) :
    readLines quote escapes (fuel + 1) (x :: s) =
      (readLines quote escapes fuel s).map fun (cs, r) => (x :: cs, r) := by
  rw [readLines.eq_def]
  simp only [hclose, afterLineEnd?_printable hx, if_neg hplain, if_pos hx]

/-- An escape hides no line end when it starts with something else. Behind a backslash blanks and
line ends are skipped, and so they are left out here. -/
theorem readLines_escape {y : Char} (hquote : '\\' ≠ quote)
    (hy : y ∉ [' ', '\t', '\n', '\r']) (hread : readEscape (y :: s) = some (x, t)) :
    readLines quote true (fuel + 1) ('\\' :: y :: s) =
      (readLines quote true fuel t).map fun (cs, r) => (x :: cs, r) := by
  simp only [List.mem_cons, List.not_mem_nil, or_false, not_or] at hy
  have hspace : skipSpace (y :: s) = y :: s := by
    simp [skipSpace, isSpace, hy.1, hy.2.1]
  have hhidden : hiddenLineEnd? (y :: s) = none := by
    rw [hiddenLineEnd?, hspace, afterLineEnd?_cons hy.2.2.1 hy.2.2.2]
    rfl
  have hline : afterLineEnd? ('\\' :: y :: s) = none :=
    afterLineEnd?_cons (by decide) (by decide)
  rw [readLines.eq_def]
  simp only [closingQuotes?_cons_other hquote, hline, and_self, if_pos, hhidden, hread,
    Option.bind_eq_bind, Option.bind_some]
  cases readLines quote true fuel t <;> rfl

/-- A string between three quotes is read up to them. The induction is on what may stand there, with
the quotes at the end of the string taken together with those that end it. -/
theorem Inside.readLines (h : Inside quote escapes t cs) (hquote : IsQuote quote)
    (hr : r.head? ≠ some quote) (hfuel : cs.length < fuel) :
    readLines quote escapes fuel (t ++ (List.replicate 3 quote ++ r)) = some (cs, r) := by
  induction h generalizing fuel with
  | nil =>
    obtain ⟨fuel, rfl⟩ := Nat.exists_eq_add_one_of_ne_zero (Nat.ne_zero_of_lt hfuel)
    have hclose := closingQuotes?_replicate (Nat.zero_le 2) hr
    rw [List.replicate_zero, List.nil_append] at hclose
    exact readLines_closing hclose
  | @quote t cs hfew hrest ih =>
    obtain ⟨fuel, rfl⟩ := Nat.exists_eq_add_one_of_ne_zero (Nat.ne_zero_of_lt hfuel)
    have hle := (Inside.quote hfew hrest).leading_le hquote
    -- Quotes up to the end are content in front of the closing ones, any others a part of it.
    by_cases hall : (quote :: t).length ≤ leading quote (quote :: t)
    · obtain ⟨hcs, ht⟩ := (Inside.quote hfew hrest).eq_replicate hquote hall
      have hn : (quote :: t).length ≤ 2 := Nat.le_trans hall hle
      rw [hcs]
      refine readLines_closing ?_
      rw [ht, List.length_replicate]
      exact closingQuotes?_replicate hn hr
    · have hclose := closingQuotes?_none (r := List.replicate 3 quote ++ r) hle (Nat.not_le.1 hall)
      have hplain : ¬ (quote = '\\' ∧ escapes = true) := fun h => hquote.backslash_ne h.1.symm
      rw [List.cons_append] at hclose ⊢
      rw [readLines_char hclose hquote.isPrintable hplain, ih (Nat.lt_of_succ_lt_succ hfuel)]
      rfl
  | @lineEnd t cs hrest ih =>
    obtain ⟨fuel, rfl⟩ := Nat.exists_eq_add_one_of_ne_zero (Nat.ne_zero_of_lt hfuel)
    rw [List.cons_append, readLines_lineEnd hquote.lineEnd_ne, ih (Nat.lt_of_succ_lt_succ hfuel)]
    rfl
  | @char x t cs hprint hother hplain hrest ih =>
    obtain ⟨fuel, rfl⟩ := Nat.exists_eq_add_one_of_ne_zero (Nat.ne_zero_of_lt hfuel)
    have hclose := closingQuotes?_cons_other (s := t ++ (List.replicate 3 quote ++ r)) hother
    rw [List.cons_append, readLines_char hclose hprint fun h => hplain h.2 h.1,
      ih (Nat.lt_of_succ_lt_succ hfuel)]
    rfl
  | @escape x y e t cs hmay hvisible hreads hrest ih =>
    obtain ⟨fuel, rfl⟩ := Nat.exists_eq_add_one_of_ne_zero (Nat.ne_zero_of_lt hfuel)
    subst hmay
    rw [List.cons_append, List.cons_append, List.append_assoc,
      readLines_escape hquote.backslash_ne hvisible (hreads _), ih (Nat.lt_of_succ_lt_succ hfuel)]
    rfl

/-- A text between three quotes is no shorter than what it stands for. -/
theorem Inside.length_le (h : Inside quote escapes t cs) : cs.length ≤ t.length := by
  induction h with
  | nil => exact Nat.le_refl 0
  | quote _ _ ih => exact Nat.succ_le_succ ih
  | lineEnd _ ih => exact Nat.succ_le_succ ih
  | char _ _ _ _ ih => exact Nat.succ_le_succ ih
  | escape _ _ _ _ ih =>
    simp only [List.length_cons, List.length_append]
    omega

/-- A text between three quotes starts with a line end only if it stands for one that does, so the
reader skips none that counts. -/
theorem Inside.skipFirstLineEnd (h : Inside quote escapes t cs)
    (hquote : IsQuote quote) (hcs : '\n' ∉ cs) :
    skipFirstLineEnd (t ++ (List.replicate 3 quote ++ r)) =
      t ++ (List.replicate 3 quote ++ r) := by
  have hprint : ∀ {x : Char} {s : List Char}, isPrintable x = true →
      Toml.skipFirstLineEnd (x :: s) = x :: s := by
    intro x s hx
    rw [Toml.skipFirstLineEnd, afterLineEnd?_printable hx]
    rfl
  cases h with
  | nil => exact hprint hquote.isPrintable
  | quote _ _ => exact hprint hquote.isPrintable
  | lineEnd _ => exact absurd List.mem_cons_self hcs
  | char hx _ _ _ => exact hprint hx
  | escape _ _ _ _ => exact hprint (x := '\\') (by decide)

/-- A text between three quotes is read whether it starts on the next line or not. The printer
starts a new line only for strings that have line ends. -/
theorem Inside.readLines_below (h : Inside quote escapes t cs)
    (hquote : IsQuote quote) (hr : r.head? ≠ some quote) :
    let below := if cs.contains '\n' then ['\n'] else []
    let rest := below ++ (t ++ (List.replicate 3 quote ++ r))
    Toml.readLines quote escapes (rest.length + 1) (Toml.skipFirstLineEnd rest) = some (cs, r) := by
  have hlength := h.length_le
  intro below rest
  -- The line end that is skipped is the one that the printer has put there, if any.
  have hskip : Toml.skipFirstLineEnd rest = t ++ (List.replicate 3 quote ++ r) := by
    by_cases hcs : '\n' ∈ cs
    · have hbelow : below = ['\n'] := if_pos (List.contains_iff_mem.2 hcs)
      show Toml.skipFirstLineEnd (below ++ _) = _
      rw [hbelow]
      rfl
    · have hbelow : below = [] := if_neg fun h => hcs (List.contains_iff_mem.1 h)
      show Toml.skipFirstLineEnd (below ++ _) = _
      rw [hbelow]
      exact h.skipFirstLineEnd hquote hcs
  rw [hskip]
  refine h.readLines hquote hr ?_
  simp only [rest, List.length_append]
  omega

end

/-! ### What is written between three quotes -/

/-- What is written for a character that is no quote starts with none. -/
theorem piece_append_ne (hx : x ≠ '"') : leading '"' (piece lines x ++ t) = 0 := by
  rcases piece_cases lines hx with ⟨h, -⟩ | ⟨y, e, h, -⟩
  · rw [h]
    exact leading_cons_other hx
  · rw [h]
    exact leading_cons_other (by decide)

/-- No more quotes stand side by side than may, when the next one is escaped. The run that comes
before the text is counted along. -/
theorem leading_escapeAll {quotes run : Nat} (hrun : run ≤ quotes) (s : List Char) :
    run + leading '"' (escapeAll lines quotes run s).toList ≤ quotes := by
  induction s generalizing run with
  | nil => exact hrun
  | cons x s ih =>
    by_cases hx : x = '"'
    · subst hx
      rw [toList_escapeAll_quote]
      split
      · rename_i hlt
        have hnext : run + 1 + leading '"' _ ≤ quotes := ih hlt
        rw [leading_cons_self]
        omega
      · rwa [leading_cons_other (by decide)]
    · rwa [toList_escapeAll_cons quotes run hx, piece_append_ne hx]

/-- What is written with escapes between three quotes may stand there, with up to two quotes in a
row left as they are. -/
theorem inside_escapeAll (run : Nat) (hrun : run ≤ 2) (s : List Char) :
    Inside '"' true (escapeAll true 2 run s).toList s := by
  induction s generalizing run with
  | nil => exact .nil
  | cons x s ih =>
    -- A quote is escaped when two stand before it, so the run at the start of the rest is short
    -- enough.
    by_cases hx : x = '"'
    · subst hx
      rw [toList_escapeAll_quote]
      split
      · rename_i hlt
        have hnext := @leading_escapeAll true 2 (run + 1) hlt s
        exact .quote (by omega) (ih (run + 1) hlt)
      · exact .escape (y := '"') (e := []) rfl (by decide) (fun _ => rfl) (ih 0 (Nat.zero_le 2))
    · have hrest := ih 0 (Nat.zero_le 2)
      rw [toList_escapeAll_cons 2 run hx]
      rcases piece_cases true hx with ⟨hpiece, hback, hprint | ⟨-, rfl⟩⟩ | ⟨y, e, hpiece, hy, hread⟩
      · rw [hpiece]
        exact .char hprint hx (fun _ => hback) hrest
      · rw [hpiece]
        exact .lineEnd hrest
      · rw [hpiece]
        exact .escape rfl hy hread hrest

/-- A text without control characters may stand as it is when no three quotes stand together. The
longest run bounds the run at every place of the text. -/
theorem inside_self (hcontrol : s.any isControl = false) (hrun : longestRun '\'' s ≤ 2) :
    Inside '\'' false s s := by
  -- Along the text, what is known so far being the longest run and the run at its end.
  suffices ∀ longest current : Nat, current ≤ longest →
      (s.foldl (fun runs c =>
        let current := if c = '\'' then runs.2 + 1 else 0
        (max runs.1 current, current)) (longest, current)).1 ≤ 2 →
      longest ≤ 2 ∧ current + leading '\'' s ≤ 2 ∧ Inside '\'' false s s from
    (this 0 0 (Nat.le_refl 0) hrun).2.2
  clear hrun
  induction s with
  | nil =>
    intro longest current hle hlongest
    exact ⟨hlongest, Nat.le_trans hle hlongest, .nil⟩
  | cons x s ih =>
    intro longest current hle hlongest
    rw [List.any_cons, Bool.or_eq_false_iff] at hcontrol
    rw [List.foldl_cons] at hlongest
    obtain ⟨hmax, hcurrent, hrest⟩ := ih hcontrol.2 _ _ (Nat.le_max_right _ _) hlongest
    have hlongest' := Nat.le_trans (Nat.le_max_left _ _) hmax
    refine ⟨hlongest', ?_⟩
    by_cases hx : x = '\''
    · subst hx
      rw [if_pos rfl] at hcurrent
      rw [leading_cons_self]
      exact ⟨by omega, .quote (by omega) hrest⟩
    · rw [leading_cons_other hx]
      refine ⟨Nat.le_trans hle hlongest', ?_⟩
      by_cases hline : x = '\n'
      · subst hline
        exact .lineEnd hrest
      · exact .char (isPrintable_of_not_control hcontrol.1 hline) hx
          (fun h => absurd h Bool.false_ne_true) hrest

/-! ### Strings of all kinds -/

/-- One quote behind a text makes the run at its start longer by one at most. -/
theorem leading_append_le {quote : Char} (hr : r.head? ≠ some quote) :
    leading quote (t ++ quote :: r) ≤ leading quote t + 1 := by
  induction t with
  | nil => exact Nat.le_of_eq (leading_replicate 1 hr)
  | cons x t ih =>
    by_cases hx : x = quote
    · subst hx
      rw [List.cons_append, leading_cons_self, leading_cons_self]
      exact Nat.succ_le_succ ih
    · rw [List.cons_append, leading_cons_other hx]
      exact Nat.zero_le _

/-- A text of one line behind a quote does not start with two more, so it is not taken for the start
of three. -/
theorem ne_two_quotes {quote : Char} (ht : leading quote t = 0) (hr : r.head? ≠ some quote)
    (u : List Char) : t ++ quote :: r ≠ quote :: quote :: u := by
  intro heq
  have hle := leading_append_le (t := t) hr
  rw [heq, leading_cons_self, leading_cons_self, ht] at hle
  omega

/-- A double quote that no two others follow starts a string of one line, with escapes. -/
theorem readString_basic (h : ∀ u, s ≠ '"' :: '"' :: u) :
    readString ('"' :: s) =
      (readBasic (s.length + 1) s).map fun (cs, r) => (String.ofList cs, r) := by
  unfold readString
  split
  case h_1 heq =>
    cases heq
    exact absurd rfl (h _)
  case h_2 heq => cases heq
  case h_3 heq =>
    cases heq
    rfl
  case h_4 heq => cases heq
  case h_5 hbasic _ => exact absurd rfl (hbasic s)

/-- A single quote that no two others follow starts a string of one line, without escapes. -/
theorem readString_literal (h : ∀ u, s ≠ '\'' :: '\'' :: u) :
    readString ('\'' :: s) = (readLiteral s).map fun (cs, r) => (String.ofList cs, r) := by
  unfold readString
  split
  case h_1 heq => cases heq
  case h_2 heq =>
    cases heq
    exact absurd rfl (h _)
  case h_3 heq => cases heq
  case h_4 heq =>
    cases heq
    rfl
  case h_5 hliteral => exact absurd rfl (hliteral s)

/-- What is written with escapes on one line stands between two double quotes. -/
theorem toList_basicText_append (s r : List Char) :
    (basicText s).toList ++ r = '"' :: ((escapeAll false 0 0 s).toList ++ '"' :: r) := by
  simp [basicText]

/-- What is written without escapes on one line stands between two single quotes. -/
theorem toList_literalText_append (s r : List Char) :
    (literalText s).toList ++ r = '\'' :: (s ++ '\'' :: r) := by
  simp [literalText]

/-- A string with escapes is read with as much fuel as there are characters. -/
theorem readBasic_rest (s r : List Char) :
    let rest := (escapeAll false 0 0 s).toList ++ '"' :: r
    readBasic (rest.length + 1) rest = some (s, r) := by
  have hlength := length_le_escapeAll false 0 0 s
  refine readBasic_escapeAll ?_
  rw [List.length_append]
  omega

/-- A string that is written with escapes on one line is read back. -/
theorem readString_basicText (s r : List Char) :
    readString ((basicText s).toList ++ '\n' :: r) = some (String.ofList s, '\n' :: r) := by
  have hleading : leading '"' (escapeAll false 0 0 s).toList = 0 := by
    have hle := @leading_escapeAll false 0 0 (Nat.le_refl 0) s
    omega
  rw [toList_basicText_append, readString_basic (ne_two_quotes hleading (by simp)), readBasic_rest]
  rfl

/-- A string that is written without escapes on one line is read back, if nothing in it needs
one. -/
theorem readString_literalText (h : ∀ x ∈ s, isPrintable x = true ∧ x ≠ '\'') :
    readString ((literalText s).toList ++ '\n' :: r) = some (String.ofList s, '\n' :: r) := by
  have hleading : leading '\'' s = 0 := by
    cases s with
    | nil => rfl
    | cons x s => exact leading_cons_other (h x List.mem_cons_self).2
  rw [toList_literalText_append, readString_literal (ne_two_quotes hleading (by simp)),
    readLiteral_append h]
  rfl

/-- Three quotes start a text that is read up to three more, with escapes between double ones and
none between single ones. -/
theorem readString_linesText {quote : Char} {escapes : Bool} {quotes content : String}
    (h : Inside quote escapes content.toList s)
    (hkind : quote = '"' ∧ escapes = true ∨ quote = '\'' ∧ escapes = false)
    (hquotes : quotes.toList = List.replicate 3 quote) :
    readString ((linesText quotes s content).toList ++ '\n' :: r) =
      some (String.ofList s, '\n' :: r) := by
  have htext : (linesText quotes s content).toList ++ '\n' :: r =
      List.replicate 3 quote ++ ((if s.contains '\n' then ['\n'] else []) ++
        (content.toList ++ (List.replicate 3 quote ++ '\n' :: r))) := by
    unfold linesText
    split <;> simp [hquotes]
  -- Three quotes are told apart from one by what follows them.
  have hread : ∀ t, readString (List.replicate 3 quote ++ t) =
      (readLines quote escapes (t.length + 1) (skipFirstLineEnd t)).map fun (cs, r) =>
        (String.ofList cs, r) := by
    rcases hkind with ⟨rfl, rfl⟩ | ⟨rfl, rfl⟩ <;> exact fun _ => rfl
  have hquote : IsQuote quote := hkind.imp And.left And.left
  have hend : ('\n' :: r).head? ≠ some quote := fun h => hquote.lineEnd_ne (Option.some.inj h)
  rw [htext, hread, h.readLines_below hquote hend]
  rfl

/-- A string is read from what is written for it, in whichever of the four forms the printer
chooses: each choice makes sure of what the reader of that form needs. -/
theorem readString_stringText (text : String) (r : List Char) :
    readString ((stringText text).toList ++ '\n' :: r) = some (text, '\n' :: r) := by
  have hofList : String.ofList text.toList = text := String.ofList_toList
  unfold stringText
  dsimp only
  -- The printer tries five cases in turn, and each of them has been shown to be read back.
  split
  · rw [readString_basicText, hofList]
  split
  · rename_i hplain
    simp only [Bool.and_eq_true, Bool.not_eq_true', List.any_eq_false] at hplain
    rw [readString_literalText, hofList]
    intro x hx
    have hne : ∀ {y}, text.toList.contains y = false → x ≠ y := by
      rintro y hy rfl
      rw [List.contains_iff_mem.2 hx] at hy
      cases hy
    have hcontrol : isControl x = false := by simpa using hplain.1.1 x hx
    exact ⟨isPrintable_of_not_control hcontrol (hne hplain.2), hne hplain.1.2⟩
  split
  · have hinside := inside_escapeAll 0 (Nat.zero_le 2) text.toList
    rw [readString_linesText hinside (.inl ⟨rfl, rfl⟩) rfl, hofList]
  split
  · rename_i hplain
    rw [Bool.and_eq_true, Bool.not_eq_true', decide_eq_true_eq] at hplain
    rw [readString_linesText (inside_self hplain.1 hplain.2) (.inr ⟨rfl, rfl⟩) rfl, hofList]
  split
  · have hinside := inside_escapeAll 0 (Nat.zero_le 2) text.toList
    rw [readString_linesText hinside (.inl ⟨rfl, rfl⟩) rfl, hofList]
  · rw [readString_basicText, hofList]

end DeviceRegistry.Toml
