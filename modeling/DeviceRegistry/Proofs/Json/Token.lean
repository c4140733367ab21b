import DeviceRegistry.Json.Reader
import DeviceRegistry.Json.Printer
import DeviceRegistry.Proofs.Steps

/-!
# `DeviceRegistry.Proofs.Json.Token`: strings and whole numbers are read back

What the printer writes for a string or a whole number is read as that string or number, wherever it
stands. Main statements:

* `Cursor.skipBlanks_of_char`, `Cursor.peek?_of_rest`, `Cursor.next_rest`: how a cursor moves.
* `readString_escape`: a string, with all its escapes.
* `readAnyNumber_text`: a whole number, when no digit, point or exponent follows.
-/

set_option autoImplicit false

namespace DeviceRegistry.Json

open DeviceRegistry.Text (Symbol)

/-! ### Cursors -/

namespace Cursor

variable {c : Cursor} {x : Char} {r : List Symbol}

/-- A character in front of the rest is seen. Bytes that are no text are symbols, too, and are not
seen as characters. -/
theorem peek?_of_rest (h : c.rest = .char x :: r) : c.peek? = some x := by
  rw [peek?, h]

/-- A text with a character in front has not ended. It goes with the lemma above, as readers ask for
both. -/
theorem atEnd_of_rest (h : c.rest = .char x :: r) : c.atEnd = false := by
  rw [atEnd, h]
  rfl

/-- The cursor behind the next symbol has the others left. With it the place of a cursor is told by
what is left to read, and its line and column do not matter. -/
theorem next_rest {s : Symbol} (h : c.rest = s :: r) : c.next.rest = r := by
  unfold next
  split
  · rename_i hnil
    rw [hnil] at h
    cases h
  · rename_i r' hline
    rw [hline] at h
    cases h
    rfl
  · rename_i s' r' _ hrest
    rw [hrest] at h
    cases h
    rfl

/-- Several steps leave the others behind them. It is for the escapes with a number and for the
digits of numbers, which are taken at once. -/
theorem drop_rest (n : Nat) : (c.drop n).rest = c.rest.drop n := by
  induction n generalizing c with
  | zero => rfl
  | succ n ih =>
    rw [drop, ih]
    cases h : c.rest with
    | nil =>
      have hnext : c.next.rest = [] := by rw [next, h]; exact h
      rw [hnext, List.drop_nil, List.drop_nil]
    | cons s r => rw [next_rest h, List.drop_succ_cons]

/-- Nothing is passed over at a character that is no blank. -/
theorem skipBlanks_of_char (h : c.rest = .char x :: r) (hx : x ∉ ['\n', ' ', '\t', '\r']) :
    c.skipBlanks = c := by
  simp only [List.mem_cons, List.not_mem_nil, or_false, not_or] at hx
  obtain ⟨rest, line, column⟩ := c
  dsimp only at h
  subst h
  unfold skipBlanks skipBlanksIn
  split <;> rename_i heq <;> simp_all

end Cursor

/-! ### Strings -/

section

variable {c : Cursor} {x : Char} {r : List Symbol}

/-- The letter behind a backslash is read as the character that it stands for. The letter `u` is
left out, since a number follows it. -/
theorem readStringBody_escaped {y : Char} (fuel : Nat) (seen : List Symbol) (hx : x ≠ 'u')
    (hy : escaped? x = some y) (h : c.rest = .char '\\' :: .char x :: r) :
    ∃ c', readStringBody (fuel + 1) seen c = readStringBody fuel (.char y :: seen) c' ∧
      c'.rest = r := by
  have hnext : c.next.rest = .char x :: r := Cursor.next_rest h
  have hescape : readEscape c.next = .ok (y, c.next.next) := by
    unfold readEscape
    rw [Cursor.peek?_of_rest hnext]
    simp only [hy]
  refine ⟨c.next.next, ?_, Cursor.next_rest hnext⟩
  rw [readStringBody]
  simp only [h, hescape]
  rfl

/-- A digit has the value that it is written for. There are sixteen of them, and each is tried. -/
theorem hexValue?_hexDigit {n : Nat} (h : n < 16) : Text.hexValue? (Text.hexDigit n) = some n := by
  have hall : ∀ n : Fin 16, Text.hexValue? (Text.hexDigit n) = some n.val := by decide
  exact hall ⟨n, h⟩

/-- The number of a small character is read as that character. It is written with two zeros in
front, so that it has four digits. -/
theorem readStringBody_control (fuel : Nat) (seen : List Symbol) (hx : x.toNat < 0x20)
    (h : c.rest = ['\\', 'u', '0', '0', Text.hexDigit (x.toNat / 16),
      Text.hexDigit (x.toNat % 16)].map .char ++ r) :
    ∃ c', readStringBody (fuel + 1) seen c = readStringBody fuel (.char x :: seen) c' ∧
      c'.rest = r := by
  have hnext : c.next.rest = .char 'u' :: .char '0' :: .char '0' ::
      .char (Text.hexDigit (x.toNat / 16)) :: .char (Text.hexDigit (x.toNat % 16)) :: r :=
    Cursor.next_rest h
  have hdigits := Cursor.next_rest hnext
  -- The first two digits are zero, and the others are the halves of the number.
  have hfour : hexFour? c.next.next.rest = some x.toNat := by
    rw [hdigits]
    simp only [hexFour?, hexValue?_hexDigit (show x.toNat / 16 < 16 by omega),
      hexValue?_hexDigit (show x.toNat % 16 < 16 by omega)]
    show some (0 * 4096 + 0 * 256 + x.toNat / 16 * 16 + x.toNat % 16) = some x.toNat
    congr 1
    omega
  have hescape : readEscape c.next = .ok (x, c.next.next.drop 4) := by
    unfold readEscape
    rw [Cursor.peek?_of_rest hnext]
    show readCodePoint c.next.next = _
    -- A control character is no surrogate, so one escape is enough.
    have hlow : ¬ (0xDC00 ≤ x.toNat ∧ x.toNat ≤ 0xDFFF) := by omega
    have hsmall : x.toNat < 0xD800 ∨ 0xDBFF < x.toNat := by omega
    have hread : readHexFour c.next.next = .ok (x.toNat, c.next.next.drop 4) := by
      unfold readHexFour
      rw [hfour]
    unfold readCodePoint
    rw [hread, except_bind_ok]
    simp only [if_neg hlow, if_pos hsmall, Char.ofNat_toNat]
  refine ⟨c.next.next.drop 4, ?_, ?_⟩
  · rw [readStringBody]
    simp only [h, List.map_cons, List.cons_append, hescape]
    rfl
  · rw [Cursor.drop_rest, hdigits]
    rfl

/-- What is written for a character is read as that character: its letter, its number or itself. The
writer has these three forms and no other. -/
theorem readStringBody_escapeChar (fuel : Nat) (seen : List Symbol)
    (h : c.rest = (escapeChar x).map .char ++ r) :
    ∃ c', readStringBody (fuel + 1) seen c = readStringBody fuel (.char x :: seen) c' ∧
      c'.rest = r := by
  unfold escapeChar at h
  split at h
  -- Seven characters have a letter of their own.
  iterate 7 exact readStringBody_escaped fuel seen (by decide) rfl h
  rename_i hquote hbackslash _ _ _ _ _
  split at h
  · rename_i hsmall
    exact readStringBody_control fuel seen hsmall h
  · rename_i hlarge
    refine ⟨c.next, ?_, Cursor.next_rest h⟩
    have hrest : c.rest = .char x :: r := h
    rw [readStringBody]
    simp only [hrest]
    rw [if_neg hquote, if_neg hbackslash, if_neg hlarge]

/-- The symbols of characters are those characters; there are other symbols only in bytes that are
no text. -/
theorem chars?_map (cs : List Char) : Symbol.chars? (cs.map .char) = some cs := by
  induction cs with
  | nil => rfl
  | cons x cs ih => rw [List.map_cons, Symbol.chars?, ih]; rfl

/-- The inside of a string is read up to its quote: `before` is what was read already. It has to be
general, as the characters are collected while they are read. -/
theorem readStringBody_escape {fuel : Nat} (before : List Char) {cs : List Char}
    (hfuel : cs.length < fuel)
    (h : c.rest = (escape cs).map .char ++ .char '"' :: r) :
    ∃ c', readStringBody fuel (before.map .char).reverse c =
      .ok (String.ofList (before ++ cs), c') ∧ c'.rest = r := by
  induction cs generalizing before fuel c with
  | nil =>
    obtain ⟨fuel, rfl⟩ : ∃ n, fuel = n + 1 := ⟨fuel - 1, by omega⟩
    refine ⟨c.next, ?_, Cursor.next_rest h⟩
    have hrest : c.rest = .char '"' :: r := h
    rw [readStringBody]
    simp only [hrest]
    show finishString (before.map .char).reverse.reverse c.next = _
    rw [List.reverse_reverse, finishString, chars?_map, List.append_nil]
  | cons x cs ih =>
    obtain ⟨fuel, rfl⟩ : ∃ n, fuel = n + 1 := ⟨fuel - 1, by omega⟩
    rw [escape, List.map_append, List.append_assoc] at h
    obtain ⟨c₁, hstep, hrest⟩ :=
      readStringBody_escapeChar fuel (before.map Symbol.char).reverse h
    -- The character joins those that were read before.
    have hseen : Symbol.char x :: (before.map Symbol.char).reverse =
        ((before ++ [x]).map Symbol.char).reverse := by
      rw [List.map_append, List.reverse_append]
      rfl
    rw [List.length_cons] at hfuel
    obtain ⟨c₂, hread, hend⟩ := ih (before ++ [x]) (Nat.lt_of_succ_lt_succ hfuel) hrest
    refine ⟨c₂, ?_, hend⟩
    rw [hstep, hseen, hread, List.append_assoc]
    rfl

/-- Every character is written as at least one, so that the fuel of reading a string is enough. -/
theorem length_le_escape (cs : List Char) : cs.length ≤ (escape cs).length := by
  induction cs with
  | nil => exact Nat.le_refl 0
  | cons x cs ih =>
    have hx : 0 < (escapeChar x).length := by
      unfold escapeChar
      split
      iterate 7 exact Nat.zero_lt_succ _
      split <;> exact Nat.zero_lt_succ _
    rw [escape, List.length_append, List.length_cons]
    omega

/-- What is written for a string is read as that string. The fuel of the reader is the number of
symbols that are left, and that is more than the characters of the string. -/
theorem readString_escape {s : String}
    (h : c.rest = (escape s.toList).map .char ++ .char '"' :: r) :
    ∃ c', readString c = .ok (s, c') ∧ c'.rest = r := by
  have hlength : s.toList.length < c.rest.length + 1 := by
    have hle := length_le_escape s.toList
    rw [h, List.length_append, List.length_map]
    omega
  obtain ⟨c', hread, hend⟩ := readStringBody_escape [] hlength h
  refine ⟨c', ?_, hend⟩
  rw [readString]
  rw [List.nil_append, String.ofList_toList] at hread
  exact hread

end

/-! ### Whole numbers -/

section

variable {c : Cursor} {r : List Symbol} {limit m n : Nat} {cs : List Char}

/-- What does not go on with a token: nothing, a blank, or what stands behind an item or member. -/
def Ends (r : List Symbol) : Prop :=
  ∀ s r', r = s :: r' → s ∈ [Symbol.char ',', .char ']', .char '\x7d', .char '\n', .char ' ']

/-- Where a token ends there is nothing, or something that does not go on with it. -/
theorem Ends.peek? (hr : Ends r) (h : c.rest = r) :
    ∀ x, c.peek? = some x → x ∈ [',', ']', '\x7d', '\n', ' '] := by
  intro x hx
  unfold Cursor.peek? at hx
  split at hx
  · rename_i y r' hrest
    cases hx
    have hy := hr (.char x) r' (h.symm.trans hrest)
    simpa using hy
  · cases hx

/-- The value of a digit is how far it stands behind zero. -/
theorem digit?_of_isDigit {x : Char} (h : x.isDigit = true) :
    digit? (.char x) = some (x.toNat - 0x30) := by
  have hrange : '0' ≤ x ∧ x ≤ '9' := by
    rw [Char.isDigit, Bool.and_eq_true, decide_eq_true_eq, decide_eq_true_eq] at h
    exact h
  rw [digit?, if_pos hrange]

/-- There are no digits where a token ends. So a number is read up to there and not further. -/
theorem digitsOf_of_ends (h : Ends r) : digitsOf r = [] := by
  cases r with
  | nil => rfl
  | cons s r =>
    have hs := h s r rfl
    simp only [List.mem_cons, List.not_mem_nil, or_false] at hs
    rcases hs with rfl | rfl | rfl | rfl | rfl <;> rfl

/-- A run of digits is read to its end, as what follows is no digit. -/
theorem digitsOf_append (hcs : ∀ x ∈ cs, x.isDigit = true) (hr : Ends r) :
    digitsOf (cs.map .char ++ r) = cs.map fun x => x.toNat - 0x30 := by
  induction cs with
  | nil => exact digitsOf_of_ends hr
  | cons x cs ih =>
    have hx := digit?_of_isDigit (hcs x List.mem_cons_self)
    rw [List.map_cons, List.cons_append, digitsOf, hx, List.map_cons,
      ih fun y hy => hcs y (List.mem_cons_of_mem _ hy)]

/-- A number only grows by further digits. So once it is too large for 64 bits it stays too large.
-/
theorem le_ofDigitChars : m ≤ Nat.ofDigitChars 10 cs m := by
  induction cs generalizing m with
  | nil => exact Nat.le_refl m
  | cons x cs ih =>
    have hnext := @ih (10 * m + (x.toNat - '0'.toNat))
    rw [Nat.ofDigitChars_cons]
    omega

/-- All digits are appended while the number stays small. It never grows past its value in the end,
so it is enough that this is small. -/
theorem appendDigits_eq (h : Nat.ofDigitChars 10 cs m ≤ limit) :
    appendDigits limit m (cs.map fun x => x.toNat - 0x30) =
      (Nat.ofDigitChars 10 cs m, cs.length) := by
  induction cs generalizing m with
  | nil => rfl
  | cons x cs ih =>
    rw [Nat.ofDigitChars_cons] at h
    have hstep : m * 10 + (x.toNat - 0x30) = 10 * m + (x.toNat - '0'.toNat) := by
      rw [Nat.mul_comm]
      rfl
    have hle : m * 10 + (x.toNat - 0x30) ≤ limit := by
      rw [hstep]
      exact Nat.le_trans le_ofDigitChars h
    rw [List.map_cons, appendDigits, if_pos hle, hstep, ih h, Nat.ofDigitChars_cons]
    rfl

/-- The digits of a number have no zero in front, unless there is nothing else. By induction on the
number, without its last digit. -/
theorem toDigits_eq_cons (n : Nat) :
    ∃ x t, Nat.toDigits 10 n = x :: t ∧ (x.toNat - 0x30 = 0 → t = []) := by
  induction n using Nat.strongRecOn with
  | _ n ih =>
    by_cases hn : n < 10
    · exact ⟨_, _, Nat.toDigits_of_lt_base hn, fun _ => rfl⟩
    · obtain ⟨x, t, hdigits, hzero⟩ := ih (n / 10) (by omega)
      rw [Nat.toDigits_of_base_le (by decide) (Nat.not_lt.1 hn), hdigits]
      refine ⟨x, _, rfl, fun hx => ?_⟩
      -- A number of one digit that starts with a zero is zero, and the quotient is not.
      rw [hzero hx] at hdigits
      have hvalue := Nat.ofDigitChars_toDigits (b := 10) (n := n / 10) (by decide) (by decide)
      rw [hdigits, Nat.ofDigitChars_cons, Nat.ofDigitChars_nil] at hvalue
      have hx0 : x.toNat - '0'.toNat = 0 := hx
      omega

/-- The digits of a number that fits 64 bits are read as that number. Reading goes over to floating
point when it would not fit, so the bound is kept for each digit. -/
theorem readNumber_digits (negative : Bool) (hn : n ≤ greatestWord)
    (h : c.rest = (Nat.toDigits 10 n).map .char ++ r) (hr : Ends r) :
    ∃ c', readNumber negative c = integer negative n c' ∧ c'.rest = r := by
  have hall : ∀ x ∈ Nat.toDigits 10 n, x.isDigit = true := fun x hx =>
    Nat.isDigit_of_mem_toDigits (by decide) (by decide) hx
  have hvalue : Nat.ofDigitChars 10 (Nat.toDigits 10 n) 0 = n :=
    Nat.ofDigitChars_toDigits (by decide) (by decide)
  have hdigits : digitsOf c.rest = (Nat.toDigits 10 n).map fun x => x.toNat - 0x30 := by
    rw [h, digitsOf_append hall hr]
  have hlength : (Nat.toDigits 10 n).length = (digitsOf c.rest).length := by
    rw [hdigits, List.length_map]
  have happend : appendDigits greatestWord 0 (digitsOf c.rest) =
      (n, (digitsOf c.rest).length) := by
    rw [← hlength, hdigits, appendDigits_eq (by rw [hvalue]; exact hn), hvalue]
  have hrest : (c.drop (digitsOf c.rest).length).rest = r := by
    rw [Cursor.drop_rest, ← hlength, h, List.drop_left' (by rw [List.length_map])]
  refine ⟨c.drop (digitsOf c.rest).length, ?_, hrest⟩
  obtain ⟨x, t, hcons, hzero⟩ := toDigits_eq_cons n
  rw [hcons, List.map_cons] at hdigits
  unfold readNumber
  dsimp only
  split
  · rename_i hnil
    rw [hnil] at hdigits
    cases hdigits
  -- Two digits, the first of them zero, are not the digits of a number.
  · rename_i d ds htwo
    rw [htwo] at hdigits
    obtain ⟨hx, ht⟩ := List.cons.inj hdigits
    rw [hzero hx.symm] at ht
    cases ht
  · rw [happend]
    dsimp only
    rw [Nat.sub_self, if_pos rfl]
    -- What follows is neither a point nor an exponent.
    split
    iterate 3
      rename_i hpeek
      exact absurd (hr.peek? hrest _ hpeek) (by decide)
    rfl

/-- A number that is not negative and fits is read as a whole number. -/
theorem integer_of_nonneg {k : Int} (hk : -0x8000000000000000 ≤ k ∧ k < 0x10000000000000000)
    (hpos : ¬ k < 0) : integer false k.natAbs c = .ok (.whole k hk, c) := by
  have habs : (k.natAbs : Int) = k := by omega
  unfold integer
  rw [if_neg Bool.false_ne_true, habs, Number.ofInt?, dif_pos hk]

/-- A negative number that fits is read as a whole number. Zero with a sign would not be one. -/
theorem integer_of_neg {k : Int} (hk : -0x8000000000000000 ≤ k ∧ k < 0x10000000000000000)
    (hneg : k < 0) : integer true k.natAbs c = .ok (.whole k hk, c) := by
  have hzero : k.natAbs ≠ 0 := by omega
  have hlarge : ¬ 0x8000000000000000 < k.natAbs := by omega
  have hsmall : ¬ (k.natAbs = 0 ∨ 0x8000000000000000 < k.natAbs) := not_or.2 ⟨hzero, hlarge⟩
  have habs : -(k.natAbs : Int) = k := by omega
  unfold integer
  rw [if_pos rfl, if_neg hsmall, habs, Number.ofInt?, dif_pos hk]

/-- The characters of a whole number: its digits, behind a sign if it has one. -/
theorem toList_text {k : Int} {hk : -0x8000000000000000 ≤ k ∧ k < 0x10000000000000000} :
    (Number.whole k hk).text.toList =
      if k < 0 then '-' :: Nat.toDigits 10 k.natAbs else Nat.toDigits 10 k.natAbs := by
  rw [Number.text]
  split
  · rw [String.toList_append, Nat.toList_repr]
    rfl
  · rw [Nat.toList_repr]

/-- A whole number starts with a digit or a sign, and with the sign when it is negative. The reader
decides on both by the first character. -/
theorem exists_toList_text {k : Int} {hk : -0x8000000000000000 ≤ k ∧ k < 0x10000000000000000} :
    ∃ x t, (Number.whole k hk).text.toList = x :: t ∧ startsNumber x = true ∧
      (x = '-' ↔ k < 0) := by
  rw [toList_text]
  -- The sign of a negative number comes first, and else a digit does.
  by_cases hneg : k < 0
  · rw [if_pos hneg]
    exact ⟨_, _, rfl, rfl, fun _ => hneg, fun _ => rfl⟩
  · rw [if_neg hneg]
    obtain ⟨x, t, hcons, -⟩ := toDigits_eq_cons k.natAbs
    have hdigit : x.isDigit = true := by
      refine Nat.isDigit_of_mem_toDigits (by decide) (by decide) (?_ : x ∈ Nat.toDigits 10 k.natAbs)
      rw [hcons]
      exact List.mem_cons_self
    refine ⟨x, t, hcons, ?_, ?_⟩
    · rw [Char.isDigit, Bool.and_eq_true, decide_eq_true_eq, decide_eq_true_eq] at hdigit
      have hrange : '0' ≤ x ∧ x ≤ '9' := hdigit
      simp [startsNumber, hrange]
    · refine ⟨?_, fun h => absurd h hneg⟩
      rintro rfl
      exact absurd hdigit (by decide)

/-- What is written for a whole number is read as that number, if nothing follows that goes on with
it: no digit, no point and no exponent. -/
theorem readAnyNumber_text {k : Int} {hk : -0x8000000000000000 ≤ k ∧ k < 0x10000000000000000}
    (h : c.rest = (Number.whole k hk).text.toList.map .char ++ r) (hr : Ends r) :
    ∃ c', readAnyNumber c = .ok (.whole k hk, c') ∧ c'.rest = r := by
  have hfits : k.natAbs ≤ greatestWord := by
    unfold greatestWord
    omega
  obtain ⟨x, t, hcons, -, hsign⟩ := @exists_toList_text k hk
  have hpeek : c.peek? = some x := by
    refine Cursor.peek?_of_rest (r := t.map .char ++ r) ?_
    rw [h, hcons]
    rfl
  unfold readAnyNumber
  rw [hpeek]
  -- The first character tells the sign, and the digits behind it are read in the same way.
  by_cases hneg : k < 0
  · rw [hsign.2 hneg, if_pos rfl]
    rw [toList_text, if_pos hneg] at h
    obtain ⟨c', hread, hrest⟩ := readNumber_digits true hfits (Cursor.next_rest h) hr
    exact ⟨c', hread.trans (integer_of_neg hk hneg), hrest⟩
  · have hx : some x ≠ some '-' := fun he => hneg (hsign.1 (Option.some.inj he))
    rw [if_neg hx]
    rw [toList_text, if_neg hneg] at h
    obtain ⟨c', hread, hrest⟩ := readNumber_digits false hfits h hr
    exact ⟨c', hread.trans (integer_of_nonneg hk hneg), hrest⟩

end

end DeviceRegistry.Json
