import DeviceRegistry.Proofs.Json.Loops
import DeviceRegistry.Proofs.Json.Token

/-!
# `DeviceRegistry.Proofs.Json.Lexeme`: passing over what has no structure

Passing over a string, a number or a word asks less of a text than reading it, and ends at the same
place. Main statements:

* `skipString_of_readString`, `skipNumber_of_readNumber`: the tokens of the format.
* `skipLevels_of_readScalar`: a value without items or members.
* `left_le_of_readScalar`: such a value is read forward.
-/

set_option autoImplicit false

namespace DeviceRegistry.Json

open DeviceRegistry.Text (Symbol)

variable {α : Type} {v : Value} {fuel : Nat} {c c₁ c' : Cursor} {x : Char}

/-! ### What is left of a text -/

/-- How many symbols of a text are left. -/
abbrev Cursor.left (c : Cursor) : Nat := c.rest.length

namespace Cursor

/-- A step leaves one symbol less, and none where there is none. All bounds on readers come from
counting steps. -/
theorem left_next (c : Cursor) : c.next.left = c.left - 1 := by
  cases h : c.rest with
  | nil =>
    have hnext : c.next = c := by rw [next, h]
    rw [hnext, left, h]
    rfl
  | cons s r => rw [left, left, next_rest h, h, List.length_cons, Nat.add_sub_cancel]

/-- Several steps leave as many symbols less. Escapes take several at once, and so they are counted
at once. -/
theorem left_drop (n : Nat) (c : Cursor) : (c.drop n).left = c.left - n := by
  rw [left, drop_rest, List.length_drop]

/-- So a step leaves no more than there was, also at the end of a text, where it leaves nothing. -/
theorem left_next_le (c : Cursor) : c.next.left ≤ c.left := c.left_next ▸ Nat.sub_le _ _

/-- Several steps leave no more than there was. The bound is enough where the number of symbols does
not matter. -/
theorem left_drop_le (n : Nat) (c : Cursor) : (c.drop n).left ≤ c.left :=
  c.left_drop n ▸ Nat.sub_le _ _

/-- There is a symbol left where one is seen. So a step from there leaves less than before. -/
theorem left_pos_of_peek? (h : c.peek? = some x) : 0 < c.left := by
  obtain ⟨r, hrest⟩ := rest_of_peek? h
  rw [left, hrest]
  exact Nat.zero_lt_succ _

/-- Passing over blanks leaves no more than there was. The induction follows the passing over, blank
by blank. -/
theorem left_skipBlanks_le (c : Cursor) : c.skipBlanks.left ≤ c.left := by
  unfold skipBlanks left
  fun_induction skipBlanksIn c.rest c.line c.column with
  | case1 _ _ _ ih | case2 _ _ _ ih | case3 _ _ _ ih | case4 _ _ _ ih => exact Nat.le_succ_of_le ih
  | case5 _ _ _ => exact Nat.le_refl _

end Cursor

/-! ### Strings -/

/-- Four digits are four symbols. Fewer than four in front of a quote are refused, so the step of
four is never too long. -/
theorem length_of_hexFour? {l : List Symbol} {n : Nat} (h : hexFour? l = some n) :
    4 ≤ l.length := by
  unfold hexFour? at h
  split at h
  · simp
  · cases h

/-- Reading four digits moves on by four symbols. Which digits they are plays no part in where
reading goes on. -/
theorem readHexFour_eq_ok {n : Nat} (h : readHexFour c = .ok (n, c')) :
    c' = c.drop 4 ∧ 4 ≤ c.left := by
  unfold readHexFour at h
  split at h
  · rename_i n' hfour
    cases h
    exact ⟨rfl, length_of_hexFour? hfour⟩
  · cases h

/-- The marks of a pair stand where they are expected, and are passed by a step. -/
theorem readPairMark_eq_ok {mark : Char} (h : readPairMark mark c = .ok ((), c')) :
    c.peek? = some mark ∧ c' = c.next := by
  unfold readPairMark at h
  split at h
  · cases h
  · split at h
    · cases h
      exact ⟨‹_›, rfl⟩
    · cases h

/-- What is not refused ends where it would. Both branches of such a test end at the same place, if
they end at all. -/
theorem ite_fail_eq_ok {p : Prop} [Decidable p] {f : Malformed} {a b : α}
    (h : (if p then fail c f else .ok (a, c₁)) = .ok (b, c')) : c₁ = c' := by
  split at h
  · cases h
  · cases h
    rfl

/-- The number of a character is four digits, or twice four digits for one past U+FFFF. Passing over
it takes one step in the first case and two in the second. -/
theorem readCodePoint_eq_ok {y : Char} (h : readCodePoint c = .ok (y, c')) :
    ∃ n c₁, readHexFour c = .ok (n, c₁) ∧
      (c' = c₁ ∨ c₁.peek? = some '\\' ∧ c₁.next.peek? = some 'u' ∧
        ∃ m, readHexFour c₁.next.next = .ok (m, c')) := by
  obtain ⟨⟨n, c₁⟩, hfour, h⟩ := except_bind_eq_ok.1 h
  refine ⟨n, c₁, hfour, ?_⟩
  dsimp only at h
  -- A low surrogate cannot come first, most numbers stand for themselves, and a high surrogate
  -- needs a second escape behind it.
  split at h
  · cases h
  · split at h
    · cases h
      exact .inl rfl
    · obtain ⟨⟨⟨⟩, c₂⟩, hmark, hpair⟩ := except_bind_eq_ok.1 h
      obtain ⟨⟨⟨⟩, c₃⟩, hmark', hlow⟩ := except_bind_eq_ok.1 hpair
      obtain ⟨⟨m, c₄⟩, hfour', hcode⟩ := except_bind_eq_ok.1 hlow
      obtain ⟨hslash, rfl⟩ := readPairMark_eq_ok hmark
      obtain ⟨hu, rfl⟩ := readPairMark_eq_ok hmark'
      have hend : c₄ = c' := ite_fail_eq_ok hcode
      exact .inr ⟨hslash, hu, m, hend ▸ hfour'⟩

/-- A number of four digits is passed over in one step, whatever it stands for. -/
theorem skipStringFrom_hexFour {n : Nat} (hslash : c.peek? = some '\\')
    (hu : c.next.peek? = some 'u') (hfour : readHexFour c.next.next = .ok (n, c')) :
    skipStringFrom (fuel + 1) c = skipStringFrom fuel c' := by
  obtain ⟨r, hrest⟩ := Cursor.rest_of_peek? hslash
  rw [skipStringFrom]
  simp only [hrest, hu, hfour]
  rfl

/-- What follows a backslash is passed over in one step, or in two when it is a pair. The fuel is
more than what is left of the text, so it is never the reason to stop. -/
theorem skipStringFrom_of_readEscape {y : Char} (hslash : c.peek? = some '\\')
    (h : readEscape c.next = .ok (y, c')) (hfuel : c.left < fuel) :
    ∃ fuel', c'.left < fuel' ∧ skipStringFrom fuel c = skipStringFrom fuel' c' := by
  obtain ⟨fuel, rfl⟩ := Nat.exists_eq_add_one_of_ne_zero (Nat.ne_zero_of_lt hfuel)
  have hnext := c.left_next
  have hnext' := c.next.left_next
  have hpos := Cursor.left_pos_of_peek? hslash
  unfold readEscape at h
  split at h
  · rename_i hu
    obtain ⟨n, c₁, hfour, hcases⟩ := readCodePoint_eq_ok h
    obtain ⟨rfl, hlength⟩ := readHexFour_eq_ok hfour
    have hdrop := c.next.next.left_drop 4
    rcases hcases with rfl | ⟨hslash', hu', m, hfour'⟩
    · exact ⟨fuel, by omega, skipStringFrom_hexFour hslash hu hfour⟩
    -- The halves of a pair are passed over one by one. What is left is enough for both.
    · obtain ⟨fuel, rfl⟩ : ∃ n, fuel = n + 1 :=
        Nat.exists_eq_add_one_of_ne_zero (by omega)
      obtain ⟨rfl, -⟩ := readHexFour_eq_ok hfour'
      have hdrop' := (c.next.next.drop 4).next.next.left_drop 4
      have hback := (c.next.next.drop 4).left_next
      have hback' := (c.next.next.drop 4).next.left_next
      refine ⟨fuel, by omega, ?_⟩
      rw [skipStringFrom_hexFour hslash hu hfour, skipStringFrom_hexFour hslash' hu' hfour']
  · rename_i x hnotU hpeek
    split at h
    · rename_i y' hescaped
      cases h
      refine ⟨fuel, by omega, ?_⟩
      obtain ⟨r, hrest⟩ := Cursor.rest_of_peek? hslash
      rw [skipStringFrom]
      simp only [hrest, hpeek, hescaped]
      rw [if_neg (by decide), if_pos trivial]
      exact if_pos rfl
    · cases h
  · split at h <;> cases h

/-- Finishing a string does not move on. What can fail in it is the text of the string, and not its
place. -/
theorem finishString_eq_ok {symbols : List Symbol} {s : String}
    (h : finishString symbols c = .ok (s, c')) : c' = c := by
  unfold finishString at h
  split at h
  · cases h
    rfl
  · cases h

/-- A string that can be read can be passed over. The induction is on the steps of reading; passing
over takes as many, or one more for each pair. -/
theorem skipStringFrom_of_readStringBody {seen : List Symbol} {s : String} {steps : Nat}
    (h : readStringBody steps seen c = .ok (s, c')) (hfuel : c.left < fuel) :
    skipStringFrom fuel c = .ok c' := by
  induction steps generalizing seen c fuel with
  | zero => cases h
  | succ steps ih =>
    have hnext := c.left_next
    obtain ⟨fuel, rfl⟩ := Nat.exists_eq_add_one_of_ne_zero (Nat.ne_zero_of_lt hfuel)
    rw [readStringBody] at h
    split at h
    · cases h
    -- Bytes that are no character spoil a string only at its end, and never what is passed over.
    · rename_i n r hrest
      have hleft : c.left = r.length + 1 := by rw [Cursor.left, hrest]; rfl
      rw [skipStringFrom]
      simp only [hrest]
      exact ih h (by omega)
    · rename_i x r hrest
      have hleft : c.left = r.length + 1 := by rw [Cursor.left, hrest]; rfl
      split at h
      · rename_i hquote
        rw [skipStringFrom]
        simp only [hrest, if_pos hquote]
        rw [finishString_eq_ok h]
      · rename_i hquote
        split at h
        · rename_i hslash
          split at h
          · rename_i y c₁ hescape
            have hpeek : c.peek? = some '\\' := by rw [Cursor.peek?_of_rest hrest, hslash]
            obtain ⟨fuel', hfuel', hskip⟩ := skipStringFrom_of_readEscape hpeek hescape hfuel
            rw [hskip]
            exact ih h hfuel'
          · cases h
        · rename_i hslash
          split at h
          · cases h
          · rename_i hcontrol
            rw [skipStringFrom]
            simp only [hrest, if_neg hquote, if_neg hslash, if_neg hcontrol]
            exact ih h (by omega)

/-- A string that can be read can be passed over, and ends at the same place. The other way round
does not hold, as half a pair can be passed over. -/
theorem skipString_of_readString {s : String} (h : readString c = .ok (s, c')) :
    skipString c = .ok c' :=
  skipStringFrom_of_readStringBody h (Nat.lt_succ_self _)

/-! ### Numbers -/

/-- Making a number of what has been read does not move on. -/
theorem fraction_eq_ok {negative : Bool} {significand : Nat} {e : Int} {n : Number}
    (h : fraction negative significand e c = .ok (n, c')) : c' = c := by
  unfold fraction at h
  split at h
  · cases h
    rfl
  · cases h

/-- Nor does making an integer, whether it is small enough for one or not. -/
theorem integer_eq_ok {negative : Bool} {significand : Nat} {n : Number}
    (h : integer negative significand c = .ok (n, c')) : c' = c := by
  unfold integer at h
  repeat' split at h
  all_goals first
    | exact fraction_eq_ok h
    | cases h; rfl

/-- Digits are passed over when there are some. Where there are none, a number is malformed, and so
is this. -/
theorem skipSomeDigits_of_digits (h : digitsOf c.rest ≠ []) :
    skipSomeDigits c = .ok (skipDigits c) := by
  rw [skipSomeDigits, startsWithDigit, if_pos]
  simpa using h

/-- An exponent that can be read can be passed over. It may be signed, and is not looked at any
further. -/
theorem skipExponent_of_readExponent {negative : Bool} {significand : Nat} {e : Int} {n : Number}
    (hpeek : c.peek? = some 'e' ∨ c.peek? = some 'E')
    (h : readExponent negative significand e c.next = .ok (n, c')) : skipExponent c = .ok c' := by
  rw [skipExponent, if_pos hpeek]
  unfold readExponent at h
  split at h
  rename_i down c₁ hsigned
  -- The sign is passed over by both readers, whichever it is.
  have hsign : (if c.next.peek? = some '+' ∨ c.next.peek? = some '-' then c.next.next
      else c.next) = c₁ := by
    split at hsigned
    · cases hsigned
      exact if_pos (.inl ‹_›)
    · cases hsigned
      exact if_pos (.inr ‹_›)
    · rename_i hplus hminus
      cases hsigned
      exact if_neg (not_or.2 ⟨hplus, hminus⟩)
  dsimp only at h ⊢
  rw [hsign]
  split at h
  · split at h <;> cases h
  · rename_i hdigits
    rw [skipSomeDigits_of_digits (by simpa using hdigits)]
    split at h
    · rw [fraction_eq_ok h, skipDigits]
    · split at h
      · cases h
      · rw [fraction_eq_ok h, skipDigits]

/-- There is nothing to pass over where no exponent starts. A number may end with its digits. -/
theorem skipExponent_of_peek? (h : ¬(c.peek? = some 'e' ∨ c.peek? = some 'E')) :
    skipExponent c = .ok c := if_neg h

/-- Digits behind a point that can be read can be passed over, and so can an exponent behind them.
Reading takes them for a number and skipping does not, but both go over the same characters. -/
theorem skipExponent_of_readFraction {negative : Bool} {significand : Nat} {e : Int} {n : Number}
    (h : readFraction negative significand e c = .ok (n, c')) :
    skipSomeDigits c = .ok (skipDigits c) ∧ skipExponent (skipDigits c) = .ok c' := by
  unfold readFraction at h
  dsimp only at h
  split at h
  · cases h
  · rename_i hdigits
    refine ⟨skipSomeDigits_of_digits (by simpa using hdigits), ?_⟩
    split at h
    · exact skipExponent_of_readExponent (.inl ‹_›) h
    · exact skipExponent_of_readExponent (.inr ‹_›) h
    · rename_i hlower hupper
      rw [fraction_eq_ok h]
      exact skipExponent_of_peek? (not_or.2 ⟨hlower, hupper⟩)

/-- The digits before a point are passed over; a leading zero stands alone. Passing over looks at
the first digit only, and reading at all of them. -/
theorem skipNumber_of_digits (hdigits : digitsOf c.rest ≠ [])
    (hzero : ∀ d ds, digitsOf c.rest ≠ 0 :: d :: ds) :
    skipNumber c = if (skipDigits c).peek? = some '.' then
      skipSomeDigits (skipDigits c).next >>= skipExponent
    else skipExponent (skipDigits c) := by
  rw [skipNumber]
  by_cases hpeek : c.peek? = some '0'
  -- No digit follows a leading zero, so it is all the digits there are.
  · obtain ⟨r, hrest⟩ := Cursor.rest_of_peek? hpeek
    have hall : digitsOf c.rest = 0 :: digitsOf c.next.rest := by
      rw [Cursor.next_rest hrest, hrest]
      rfl
    have hnone : digitsOf c.next.rest = [] := by
      cases hmore : digitsOf c.next.rest with
      | nil => rfl
      | cons d ds => exact absurd (hmore ▸ hall) (hzero d ds)
    have hnext : skipDigits c = c.next := by
      rw [skipDigits, hall, hnone]
      rfl
    have hstart : ¬startsWithDigit c.next.rest = true := by
      rw [startsWithDigit, hnone]
      decide
    rw [if_pos hpeek, if_neg hstart, hnext]
    rfl
  · rw [if_neg hpeek, skipSomeDigits_of_digits hdigits]
    rfl

/-- A number that can be read has digits, and no leading zero before others. Passing over a number
asks for the same, and for nothing about how large it is. -/
theorem digits_of_readNumber {negative : Bool} {n : Number}
    (h : readNumber negative c = .ok (n, c')) :
    digitsOf c.rest ≠ [] ∧ ∀ d ds, digitsOf c.rest ≠ 0 :: d :: ds := by
  unfold readNumber at h
  dsimp only at h
  split at h
  · split at h <;> cases h
  · cases h
  · rename_i hdigits hzero
    exact ⟨hdigits, hzero⟩

/-- A number that can be read can be passed over. The cases are how it goes on behind its digits:
with a point, an exponent or neither. -/
theorem skipNumber_of_readNumber {negative : Bool} {n : Number}
    (h : readNumber negative c = .ok (n, c')) : skipNumber c = .ok c' := by
  obtain ⟨hdigits, hzero⟩ := digits_of_readNumber h
  rw [skipNumber_of_digits hdigits hzero]
  unfold readNumber at h
  dsimp only at h
  split at h
  · exact absurd ‹_› hdigits
  · cases h
  · have hdrop : c.drop (digitsOf c.rest).length = skipDigits c := rfl
    rw [hdrop] at h
    -- What comes behind the digits decides.
    split at h
    · rename_i hpoint
      obtain ⟨hskip, hexponent⟩ := skipExponent_of_readFraction h
      rw [if_pos hpoint, hskip, except_bind_ok, hexponent]
    · rename_i hpeek
      rw [if_neg (by rw [hpeek]; decide)]
      exact skipExponent_of_readExponent (.inl hpeek) h
    · rename_i hpeek
      rw [if_neg (by rw [hpeek]; decide)]
      exact skipExponent_of_readExponent (.inr hpeek) h
    · rename_i hpoint hlower hupper
      have hend : c' = skipDigits c := by
        split at h
        · exact integer_eq_ok h
        · exact fraction_eq_ok h
      rw [if_neg hpoint, hend]
      exact skipExponent_of_peek? (not_or.2 ⟨hlower, hupper⟩)

/-! ### Values without structure -/

/-- A word that can be read can be passed over. Both compare the symbols one by one, and only
reading has a value in the end. -/
theorem skipWord_of_readLiteral {word : List Char} {w : Value}
    (h : readLiteral word w c = .ok (v, c')) : skipWord word c = .ok c' := by
  unfold readLiteral at h
  rw [skipWord]
  split at h
  · rename_i c₁ hword
    cases h
    rfl
  · cases h

/-- A number is passed over from its first digit on. A digit is none of the characters that the
other values start with, which is all there is to check. -/
theorem skipLevels_digit (hpeek : c.skipBlanks.peek? = some x) (hdigit : '0' ≤ x ∧ x ≤ '9') :
    skipLevels (fuel + 1) c = skipNumber c.skipBlanks := by
  have hne : ∀ y, ¬('0' ≤ y ∧ y ≤ '9') → c.skipBlanks.peek? ≠ some y := by
    intro y hy he
    cases hpeek.symm.trans he
    exact hy hdigit
  -- A digit opens neither a word nor a string, a list or an object, nor is it a minus sign.
  rw [skipLevels]
  split
  · exact absurd ‹_› (hne _ (by decide))
  · exact absurd ‹_› (hne _ (by decide))
  · exact absurd ‹_› (hne _ (by decide))
  · exact absurd ‹_› (hne _ (by decide))
  · exact absurd ‹_› (hne _ (by decide))
  · exact absurd ‹_› (hne _ (by decide))
  · exact absurd ‹_› (hne _ (by decide))
  · rename_i hpeek'
    cases hpeek.symm.trans hpeek'
    rw [if_pos hdigit]
  · rename_i hnone
    cases hpeek.symm.trans hnone

/-- A value without structure that can be read can be passed over, and ends at the same place. The
cases are those of its first symbol. -/
theorem skipLevels_of_readScalar (h : readScalar c.skipBlanks = .ok (v, c')) :
    skipLevels (fuel + 1) c = .ok c' := by
  unfold readScalar at h
  rw [skipLevels]
  -- Each kind of scalar is skipped up to where it is read: three words, a string, and numbers with
  -- or without a sign.
  split at h
  · simp only [*]
    exact skipWord_of_readLiteral h
  · simp only [*]
    exact skipWord_of_readLiteral h
  · simp only [*]
    exact skipWord_of_readLiteral h
  · split at h
    · rename_i hread
      cases h
      simp only [*]
      exact skipString_of_readString hread
    · cases h
  · rename_i x hnull htrue hfalse hquote hpeek
    split at h
    · rename_i hstarts
      split at h
      · rename_i hread
        cases h
        unfold readAnyNumber at hread
        split at hread
        · rename_i hminus
          simp only [hminus]
          exact skipNumber_of_readNumber hread
        · rename_i hminus
          have hdigit : '0' ≤ x ∧ x ≤ '9' := by
            rw [startsNumber, Bool.or_eq_true, Bool.and_eq_true] at hstarts
            rcases hstarts with hsign | hdigit
            · exact absurd (hpeek.trans (congrArg some (of_decide_eq_true hsign))) hminus
            · exact ⟨of_decide_eq_true hdigit.1, of_decide_eq_true hdigit.2⟩
          have hskip : skipLevels (fuel + 1) c = skipNumber c.skipBlanks :=
            skipLevels_digit hpeek hdigit
          rw [skipLevels] at hskip
          exact hskip.trans (skipNumber_of_readNumber hread)
      · cases h
    · cases h
  · cases h

/-! ### Readers move forward -/

/-- What moves forward from the next symbol on moves forward. It is for readers that take one symbol
and leave the rest to another. -/
theorem left_le_of_next (h : c'.left ≤ c.next.left) : c'.left ≤ c.left :=
  Nat.le_trans h c.left_next_le

/-- Passing over a string moves forward. The induction is on the fuel, of which every character
takes one step, whether it is escaped or not. -/
theorem left_le_of_skipStringFrom (h : skipStringFrom fuel c = .ok c') : c'.left ≤ c.left := by
  induction fuel generalizing c with
  | zero => cases h
  | succ fuel ih =>
    rw [skipStringFrom] at h
    -- Every step of the loop consumes something: a character, an escape, or an escape with four
    -- digits.
    split at h
    · cases h
    · exact left_le_of_next (ih h)
    · split at h
      · cases h
        exact c.left_next_le
      · split at h
        · dsimp only at h
          split at h
          · split at h
            · rename_i hfour
              obtain ⟨rfl, -⟩ := readHexFour_eq_ok hfour
              have hdrop := Nat.le_trans (ih h) (Cursor.left_drop_le 4 _)
              exact left_le_of_next (left_le_of_next hdrop)
            · cases h
          · split at h
            · exact left_le_of_next (left_le_of_next (ih h))
            · cases h
          · split at h <;> cases h
        · split at h
          · cases h
          · exact left_le_of_next (ih h)

/-- So does reading a string, which ends where passing over it does. -/
theorem left_le_of_readString {s : String} (h : readString c = .ok (s, c')) : c'.left ≤ c.left :=
  left_le_of_skipStringFrom (skipString_of_readString h)

/-- Passing over digits moves forward, by as many symbols as there are digits. -/
theorem left_le_of_skipSomeDigits (h : skipSomeDigits c = .ok c') : c'.left ≤ c.left := by
  unfold skipSomeDigits at h
  split at h
  · cases h
    exact Cursor.left_drop_le _ c
  · cases h

/-- Passing over an exponent moves forward, whether there is one or not. The sign and the letter
only add to what the digits take. -/
theorem left_le_of_skipExponent (h : skipExponent c = .ok c') : c'.left ≤ c.left := by
  unfold skipExponent at h
  split at h
  · dsimp only at h
    refine left_le_of_next (Nat.le_trans (left_le_of_skipSomeDigits h) ?_)
    split
    · exact c.next.left_next_le
    · exact Nat.le_refl _
  · cases h
    exact Nat.le_refl _

/-- So does reading a number, which ends where passing over it does. There is no need to look at how
the digits are read. -/
theorem left_le_of_readNumber {negative : Bool} {n : Number}
    (h : readNumber negative c = .ok (n, c')) : c'.left ≤ c.left := by
  have hskip := skipNumber_of_readNumber h
  obtain ⟨hdigits, hzero⟩ := digits_of_readNumber h
  rw [skipNumber_of_digits hdigits hzero] at hskip
  refine Nat.le_trans ?_ (Cursor.left_drop_le (digitsOf c.rest).length c)
  split at hskip
  · obtain ⟨c₁, hfraction, hexponent⟩ := except_bind_eq_ok.1 hskip
    exact left_le_of_next (Nat.le_trans (left_le_of_skipExponent hexponent)
      (left_le_of_skipSomeDigits hfraction))
  · exact left_le_of_skipExponent hskip

/-- Reading a word moves forward, symbol by symbol, and the induction is on the symbols. It is for
`null`, `true` and `false`. -/
theorem left_le_of_readWord {word : List Char} (h : readWord word c = .ok ((), c')) :
    c'.left ≤ c.left := by
  induction word generalizing c with
  | nil =>
    cases h
    exact Nat.le_refl _
  | cons x word ih =>
    rw [readWord] at h
    split at h
    · cases h
    · split at h
      · exact left_le_of_next (ih h)
      · cases h

/-- A word that stands for a value moves forward as the word does. -/
theorem left_le_of_readLiteral {word : List Char} {w : Value}
    (h : readLiteral word w c = .ok (v, c')) : c'.left ≤ c.left := by
  unfold readLiteral at h
  split at h
  · rename_i hword
    cases h
    exact left_le_of_readWord hword
  · cases h

/-- So does every value without structure. It bounds the number of steps that reading a document
takes, and so the depth that a document of some length can have. -/
theorem left_le_of_readScalar (h : readScalar c = .ok (v, c')) : c'.left ≤ c.left := by
  unfold readScalar at h
  -- The same kinds of scalars as above, each of which consumes at least what opens it.
  split at h
  · exact left_le_of_next (left_le_of_readLiteral h)
  · exact left_le_of_next (left_le_of_readLiteral h)
  · exact left_le_of_next (left_le_of_readLiteral h)
  · split at h
    · rename_i hread
      cases h
      exact left_le_of_next (left_le_of_readString hread)
    · cases h
  · split at h
    · split at h
      · rename_i hread
        cases h
        unfold readAnyNumber at hread
        split at hread
        · exact left_le_of_next (left_le_of_readNumber hread)
        · exact left_le_of_readNumber hread
      · cases h
    · cases h
  · cases h

end DeviceRegistry.Json
