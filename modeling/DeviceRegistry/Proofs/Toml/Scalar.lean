import DeviceRegistry.Proofs.Json.Token
import DeviceRegistry.Proofs.Toml.Strings
import DeviceRegistry.Toml.Reader

/-!
# `DeviceRegistry.Proofs.Toml.Scalar`: keys and plain values are read back

What the printer writes for a key is read as that key, and what it writes at the end of a line for a
string, a truth value or an integer (`Value.IsPlain`) as that value. Main statements:

* `readKeyPart_keyText`, `readKey_path`: a part of a key, and the path of a header.
* `readNumber_toString`: an integer, which is refused when it does not fit 64 bits.
* `readValue_text`: any plain value.
-/

set_option autoImplicit false

namespace DeviceRegistry.Toml

variable {x mark : Char} {s r ds : List Char} {v : Value}

/-- Characters of which something holds and does not hold are not the same. -/
theorem ne_of_holds {p : Char → Bool} {y : Char} (hx : p x = true) (hy : p y = false) : x ≠ y := by
  rintro rfl
  rw [hx] at hy
  cases hy

/-! ### Keys -/

/-- Whether a character can start a key. -/
def startsKey (x : Char) : Bool := x = '"' || x = '\'' || isBare x

/-- A part of a key in double quotes is read back, with whatever had to be escaped. -/
theorem readKeyPart_basic (s r : List Char) :
    readKeyPart ((basicText s).toList ++ r) = some (String.ofList s, r) := by
  rw [toList_basicText_append]
  show Option.map _ (readBasic _ _) = _
  rw [readBasic_rest]
  rfl

/-- A part of a key in single quotes is read back, if it has no such quote and nothing
unprintable. -/
theorem readKeyPart_literal (h : ∀ x ∈ s, isPrintable x = true ∧ x ≠ '\'') (r : List Char) :
    readKeyPart ((literalText s).toList ++ r) = some (String.ofList s, r) := by
  rw [toList_literalText_append]
  show Option.map _ (readLiteral _) = _
  rw [readLiteral_append h]
  rfl

/-- Bare characters are read up to the first other one, which is a blank, a dot, a bracket or the
equals sign in what is written here. -/
theorem readKeyPart_bare (hs : s ≠ []) (hbare : ∀ x ∈ s, isBare x = true)
    (hr : ∀ x ∈ r.head?, isBare x = false) :
    readKeyPart (s ++ r) = some (String.ofList s, r) := by
  have htake : (s ++ r).takeWhile isBare = s := by
    rw [List.takeWhile_append_of_pos hbare]
    cases r with
    | nil => exact List.append_nil s
    | cons y r => rw [List.takeWhile_cons_of_neg (by simp [hr y rfl]), List.append_nil]
  obtain ⟨x, t, rfl⟩ := List.exists_cons_of_ne_nil hs
  have hx := hbare x List.mem_cons_self
  unfold readKeyPart
  -- A bare character is neither of the two quotes.
  split
  · rename_i heq
    cases heq
    exact absurd hx (by decide)
  · rename_i heq
    cases heq
    exact absurd hx (by decide)
  · rw [htake]
    exact congrArg some (Prod.ext rfl (List.drop_left))

/-- A part of a key is read from what is written for it, in whichever of the three ways that is. -/
theorem readKeyPart_keyText (k : String) (hr : ∀ x ∈ r.head?, isBare x = false) :
    readKeyPart ((keyText k).toList ++ r) = some (k, r) := by
  have hofList : String.ofList k.toList = k := String.ofList_toList
  unfold keyText
  dsimp only
  -- Bare, with escapes because of a single quote, literal, or with escapes because of something
  -- unprintable.
  split
  · rename_i hbare
    rw [Bool.and_eq_true, List.all_eq_true] at hbare
    have hk : k.toList ≠ [] := by
      intro hnil
      simp [hnil] at hbare
    rw [readKeyPart_bare hk hbare.2 hr, hofList]
  split
  · rw [readKeyPart_basic, hofList]
  split
  · rename_i hplain
    simp only [Bool.and_eq_true, Bool.not_eq_true', List.any_eq_false, Bool.or_eq_true,
      decide_eq_true_eq, not_or] at hplain
    rw [readKeyPart_literal, hofList]
    intro x hx
    have hcontrol : isControl x = false := by simpa using (hplain.1 x hx).1
    refine ⟨isPrintable_of_not_control hcontrol (hplain.1 x hx).2, ?_⟩
    rintro rfl
    rw [List.contains_iff_mem.2 hx] at hplain
    exact absurd hplain.2 (by decide)
  · rw [readKeyPart_basic, hofList]

/-- What starts like no part of a key is not read as one. So a part of a key is never empty, and
what is written for one starts as it should. -/
theorem readKeyPart_eq_none (hx : startsKey x = false) : readKeyPart (x :: s) = none := by
  simp only [startsKey, Bool.or_eq_false_iff, decide_eq_false_iff_not] at hx
  unfold readKeyPart
  split
  case h_1 heq =>
    cases heq
    exact absurd rfl hx.1.1
  case h_2 heq =>
    cases heq
    exact absurd rfl hx.1.2
  case h_3 =>
    rw [List.takeWhile_cons_of_neg (by simp [hx.2])]
    rfl

/-- What is written for a part of a key starts like one, or it would not be read. -/
theorem exists_keyText (k : String) :
    ∃ x t, (keyText k).toList = x :: t ∧ startsKey x = true := by
  have hread := readKeyPart_keyText (r := []) k (by simp)
  cases hk : (keyText k).toList with
  | nil =>
    rw [hk] at hread
    exact absurd hread (by simp [readKeyPart])
  | cons x t =>
    refine ⟨x, t, rfl, ?_⟩
    cases hx : startsKey x with
    | true => rfl
    | false =>
      rw [hk, List.cons_append, readKeyPart_eq_none hx] at hread
      cases hread

/-- No blank stands in front of what is written for a part of a key. -/
theorem skipSpace_keyText (k : String) :
    skipSpace ((keyText k).toList ++ r) = (keyText k).toList ++ r := by
  obtain ⟨x, t, hk, hx⟩ := exists_keyText k
  have hspace : isSpace x = false := by
    simp [isSpace, ne_of_holds hx (show startsKey ' ' = false by decide),
      ne_of_holds hx (show startsKey '\t' = false by decide)]
  rw [hk, List.cons_append, skipSpace, List.dropWhile_cons_of_neg (by simp [hspace])]

/-- A key of one part is read, with the blanks behind it. There must be no dot, which would go on
with another part. -/
theorem readKey_name {fuel : Nat} (hfuel : 0 < fuel) (k : String)
    (hr : ∀ x ∈ r.head?, isBare x = false) (hdot : (skipSpace r).head? ≠ some '.') :
    readKey fuel ((keyText k).toList ++ r) = some (([], k), skipSpace r) := by
  obtain ⟨fuel, rfl⟩ := Nat.exists_eq_add_one_of_ne_zero (Nat.ne_of_gt hfuel)
  rw [readKey, skipSpace_keyText, readKeyPart_keyText k hr]
  rw [Option.bind_eq_bind, Option.bind_some]
  dsimp only
  split
  · rename_i heq
    rw [heq] at hdot
    exact absurd rfl hdot
  · rfl

/-- The parts of a path are read with the dots between them, in the brackets of a header. The
induction is on the parts, and each takes a step of the fuel. -/
theorem readKey_path {fuel : Nat} (path : List String) (hfuel : path.length < fuel) (k : String)
    (r : List Char) :
    readKey fuel ((String.intercalate "." ((path ++ [k]).map keyText)).toList ++ ']' :: r) =
      some ((path, k), ']' :: r) := by
  induction path generalizing fuel with
  | nil => exact readKey_name hfuel k (by simp [isBare]) (by simp [skipSpace, isSpace])
  | cons part path ih =>
    obtain ⟨fuel, rfl⟩ := Nat.exists_eq_add_one_of_ne_zero (Nat.ne_zero_of_lt hfuel)
    have htext : (String.intercalate "." (((part :: path) ++ [k]).map keyText)).toList ++
        ']' :: r = (keyText part).toList ++ ('.' ::
          ((String.intercalate "." ((path ++ [k]).map keyText)).toList ++ ']' :: r)) := by
      cases path <;>
        simp only [List.cons_append, List.nil_append, List.map_cons, String.intercalate_cons_cons,
          String.toList_append, List.append_assoc] <;> rfl
    rw [htext, readKey, skipSpace_keyText, readKeyPart_keyText part (by simp [isBare])]
    show (readKey fuel _ >>= fun x => some ((part :: x.1.1, x.1.2), x.2)) = _
    rw [ih (Nat.lt_of_succ_lt_succ hfuel)]
    rfl

/-- No key starts with a character that starts no part of one, and so no line does. -/
theorem readKey_eq_none (hx : startsKey x = false) (hspace : isSpace x = false) (fuel : Nat) :
    readKey fuel (x :: s) = none := by
  cases fuel with
  | zero => rfl
  | succ fuel =>
    have hskip : skipSpace (x :: s) = x :: s :=
      List.dropWhile_cons_of_neg (by simp [hspace])
    rw [readKey, hskip, readKeyPart_eq_none hx]
    rfl

/-! ### Integers -/

/-- A decimal digit stands for its distance from zero, as a digit of any base. -/
theorem hexNumber?_of_isDigit (hx : x.isDigit = true) :
    Text.hexNumber? [x] = some (x.toNat - '0'.toNat) := by
  have hrange : '0' ≤ x ∧ x ≤ '9' := by
    rw [Char.isDigit, Bool.and_eq_true, decide_eq_true_eq, decide_eq_true_eq] at hx
    exact hx
  simp [Text.hexNumber?, Text.hexValue?, hrange]

/-- The value of a run of digits, the first being the highest, as the library has it. -/
theorem digitsValue_ten (hds : ∀ x ∈ ds, x.isDigit = true) :
    digitsValue 10 ds = Nat.ofDigitChars 10 ds 0 := by
  -- Along the digits, from the number that those in front stand for.
  suffices ∀ n, ds.foldl (fun n x => n * 10 + (Text.hexNumber? [x]).getD 0) n =
      Nat.ofDigitChars 10 ds n from this 0
  induction ds with
  | nil => exact fun n => rfl
  | cons x ds ih =>
    intro n
    rw [List.foldl_cons, Nat.ofDigitChars_cons, ih fun y hy => hds y (List.mem_cons_of_mem x hy),
      hexNumber?_of_isDigit (hds x List.mem_cons_self), Nat.mul_comm]
    rfl

/-- What the library writes for a number in base ten are digits. -/
theorem isDigit_of_mem_toDigits {n : Nat} (hx : x ∈ Nat.toDigits 10 n) : x.isDigit = true :=
  Nat.isDigit_of_mem_toDigits (by decide) (by decide) hx

/-- The value of what is written for a number is the number. -/
theorem digitsValue_toDigits (n : Nat) : digitsValue 10 (Nat.toDigits 10 n) = n := by
  rw [digitsValue_ten fun _ => isDigit_of_mem_toDigits]
  exact Nat.ofDigitChars_toDigits (by decide) (by decide)

/-- A run of digits is read to its end, which is the end of the line here: there are no
underscores. -/
theorem readDigits_append (hds : ∀ x ∈ ds, x.isDigit = true) (hne : ds ≠ []) (r : List Char) :
    readDigits Char.isDigit (ds ++ '\n' :: r) = some (ds, '\n' :: r) := by
  have hmore : ∀ ds : List Char, (∀ x ∈ ds, x.isDigit = true) →
      readDigits.more Char.isDigit (ds ++ '\n' :: r) = (ds, '\n' :: r) := by
    intro ds hds
    induction ds with
    | nil => rfl
    | cons x ds ih =>
      have hx := hds x List.mem_cons_self
      have hrest := ih fun y hy => hds y (List.mem_cons_of_mem x hy)
      rw [List.cons_append, readDigits.more, if_pos hx, hrest]
      intro c r hbar _
      exact ne_of_holds hx (by decide) hbar
  obtain ⟨x, ds, rfl⟩ := List.exists_cons_of_ne_nil hne
  have hrest := hmore ds fun y hy => hds y (List.mem_cons_of_mem x hy)
  show (if x.isDigit then _ else _) = _
  rw [if_pos (hds x List.mem_cons_self), List.append_eq, hrest]

/-- A number does not look like a moment: the mark that a date or a time has after some digits is
not there. -/
theorem startsWithDigits_append (hds : ∀ x ∈ ds, x.isDigit = true) (hmark : mark.isDigit = false)
    (hline : mark ≠ '\n') (width : Nat) (r : List Char) :
    startsWithDigits width mark (ds ++ '\n' :: r) = false := by
  induction width generalizing ds with
  | zero =>
    cases ds with
    | nil => simp [startsWithDigits, hline.symm]
    | cons x ds =>
      have hx := ne_of_holds (hds x List.mem_cons_self) hmark
      simp [startsWithDigits, hx]
  | succ width ih =>
    cases ds with
    | nil => rfl
    | cons x ds =>
      have hrest := ih fun y hy => hds y (List.mem_cons_of_mem x hy)
      show (x.isDigit && _ && _) = false
      rw [hds x List.mem_cons_self, Bool.true_and]
      exact hrest

/-- The digits of a whole number are read, the sign being known. A zero in front would be refused,
but only the number zero starts with one. -/
theorem readDecimal_toDigits (negative : Bool) (n : Nat) (r : List Char) :
    readDecimal negative (Nat.toDigits 10 n ++ '\n' :: r) =
      (integer? (if negative then -n else n)).map fun v => (v, '\n' :: r) := by
  have hds : ∀ x ∈ Nat.toDigits 10 n, x.isDigit = true := fun _ => isDigit_of_mem_toDigits
  have hvalue := digitsValue_toDigits n
  have hend : ∀ ds, digitsValue 10 ds = n →
      (do return (← integer? (if negative then -(digitsValue 10 ds : Int) else digitsValue 10 ds),
        '\n' :: r)) = (integer? (if negative then -n else n)).map fun v => (v, '\n' :: r) := by
    rintro ds rfl
    cases integer? (if negative then -(digitsValue 10 ds : Int) else digitsValue 10 ds) <;> rfl
  obtain ⟨x, t, hn, hzero⟩ := Json.toDigits_eq_cons n
  rw [hn] at hds hvalue ⊢
  -- A zero in front is all that is read of a number, and no other digit follows it.
  by_cases hx : x = '0'
  · subst hx
    obtain rfl := hzero rfl
    exact hend ['0'] hvalue
  · have hread := readDigits_append hds (List.cons_ne_nil x t) r
    have hno : ∀ r', x :: (t ++ '\n' :: r) ≠ '0' :: r' := fun r' h => hx (List.cons.inj h).1
    rw [← hend (x :: t) hvalue]
    rw [List.cons_append] at hread ⊢
    generalize x :: (t ++ '\n' :: r) = s at hread hno
    unfold readDecimal
    simp only [hread, Option.bind_eq_bind, Option.bind_some]
    rfl

/-- The digits of a number are read behind its sign: they start none of the words for other
numbers. -/
theorem readSigned_toDigits (negative : Bool) (n : Nat) (r : List Char) :
    readSigned negative (Nat.toDigits 10 n ++ '\n' :: r) =
      (integer? (if negative then -n else n)).map fun v => (v, '\n' :: r) := by
  have hread := readDecimal_toDigits negative n r
  obtain ⟨x, t, hn, -⟩ := Json.toDigits_eq_cons n
  have hx : x.isDigit = true := isDigit_of_mem_toDigits (by rw [hn]; exact List.mem_cons_self)
  have hinf : x ≠ 'i' := ne_of_holds hx (by decide)
  have hnan : x ≠ 'n' := ne_of_holds hx (by decide)
  rw [hn, List.cons_append] at hread ⊢
  rw [readSigned, hread]
  · exact fun r h => hinf (List.cons.inj h).1
  · exact fun r h => hnan (List.cons.inj h).1

/-- What starts with a digit is read as a number without a sign, unless the start is that of another
base. -/
theorem readNumber_of_isDigit (hx : x.isDigit = true)
    (hbase : x = '0' → ∀ y ∈ s.head?, y ∉ ['x', 'o', 'b']) :
    readNumber (x :: s) = readSigned false (x :: s) := by
  unfold readNumber
  split
  case h_6 => rfl
  all_goals
    rename_i heq
    cases heq
  -- Neither a sign nor the letter of a base is a digit.
  case h_1 | h_2 => exact absurd hx (by decide)
  all_goals exact absurd (hbase rfl _ rfl) (by decide)

/-- A number that is not negative is written as its digits. -/
theorem toList_toString_ofNat (n : Nat) : (toString (Int.ofNat n)).toList = Nat.toDigits 10 n :=
  Nat.toList_repr

/-- A negative number is written as its digits behind a minus sign. -/
theorem toList_toString_negSucc (n : Nat) :
    (toString (Int.negSucc n)).toList = '-' :: Nat.toDigits 10 (n + 1) := by
  show ("-" ++ Nat.repr (n + 1)).toList = _
  rw [String.toList_append, Nat.toList_repr]
  rfl

/-- What is written for an integer starts with a digit or a sign, so the reader of scalars takes it
for a number. -/
theorem exists_toString (n : Int) :
    ∃ x t, (toString n).toList = x :: t ∧ (x.isDigit = true ∨ x = '-') := by
  cases n with
  | ofNat n =>
    obtain ⟨x, t, hn, -⟩ := Json.toDigits_eq_cons n
    have hx : x.isDigit = true := isDigit_of_mem_toDigits (by rw [hn]; exact List.mem_cons_self)
    rw [toList_toString_ofNat, hn]
    exact ⟨x, t, rfl, .inl hx⟩
  | negSucc n =>
    rw [toList_toString_negSucc]
    exact ⟨_, _, rfl, .inr rfl⟩

/-- An integer does not look like a moment, with a sign or without: the mark of a moment never
stands behind the digits of a number. So it is not read as one. -/
theorem startsWithDigits_toString (n : Int) (hmark : mark.isDigit = false) (hline : mark ≠ '\n')
    {width : Nat} (hwidth : 0 < width) (r : List Char) :
    startsWithDigits width mark ((toString n).toList ++ '\n' :: r) = false := by
  cases n with
  | ofNat n =>
    rw [toList_toString_ofNat]
    exact startsWithDigits_append (fun _ => isDigit_of_mem_toDigits) hmark hline width r
  | negSucc n =>
    obtain ⟨width, rfl⟩ := Nat.exists_eq_add_one_of_ne_zero (Nat.ne_of_gt hwidth)
    rw [toList_toString_negSucc]
    rfl

/-- An integer is read from what is written for it, if it fits 64 bits. One that does not is refused
by the reader, which the right side says, too. -/
theorem readNumber_toString (n : Int) (r : List Char) :
    readNumber ((toString n).toList ++ '\n' :: r) = (integer? n).map fun v => (v, '\n' :: r) := by
  -- A number that starts with a zero is the zero, so no other base can be meant.
  cases n with
  | ofNat n =>
    have hread := readSigned_toDigits false n r
    obtain ⟨x, t, hn, hzero⟩ := Json.toDigits_eq_cons n
    have hx : x.isDigit = true := isDigit_of_mem_toDigits (by rw [hn]; exact List.mem_cons_self)
    rw [toList_toString_ofNat]
    rw [hn, List.cons_append] at hread ⊢
    rw [readNumber_of_isDigit hx, hread]
    · rfl
    · rintro rfl y hy
      rw [hzero rfl] at hy
      cases hy
      decide
  | negSucc n =>
    have hread := readSigned_toDigits true (n + 1) r
    rw [toList_toString_negSucc]
    exact hread

/-- What starts with a digit or a sign and does not look like a moment is read as a number. -/
theorem readScalar_of_number (hx : x.isDigit = true ∨ x = '-')
    (hdate : startsWithDigits 4 '-' (x :: s) = false)
    (htime : startsWithDigits 2 ':' (x :: s) = false) :
    readScalar (x :: s) = readNumber (x :: s) := by
  unfold readScalar
  split
  case h_5 =>
    rw [hdate, htime]
    rfl
  all_goals
    rename_i heq
    cases heq
    exact absurd hx (by decide)

/-! ### Plain values -/

/-- A value that is written on one line: a string, a truth value, or an integer of 64 bits. -/
def Value.IsPlain : Value → Prop
  | .string _ => True
  | .integer n => -0x8000000000000000 ≤ n ∧ n < 0x8000000000000000
  | .boolean _ => True
  | _ => False

/-- What starts with no quote is not read as a string. A reader tries strings first, and goes on to
the other kinds of values by this. -/
theorem readString_eq_none (hbasic : x ≠ '"') (hliteral : x ≠ '\'') :
    readString (x :: s) = none := by
  unfold readString
  split
  case h_1 heq | h_3 heq =>
    cases heq
    exact absurd rfl hbasic
  case h_2 heq | h_4 heq =>
    cases heq
    exact absurd rfl hliteral
  case h_5 => rfl

/-- What is written for a string starts with a quote, or it would not be read. So there is no need
to look at how the kind of quotes is chosen. -/
theorem exists_stringText (text : String) :
    ∃ x t, (stringText text).toList = x :: t ∧ (x = '"' ∨ x = '\'') := by
  have hread := readString_stringText text []
  cases htext : (stringText text).toList with
  | nil =>
    rw [htext] at hread
    cases hread
  | cons x t =>
    refine ⟨x, t, rfl, ?_⟩
    by_cases hbasic : x = '"'
    · exact .inl hbasic
    by_cases hliteral : x = '\''
    · exact .inr hliteral
    rw [htext, List.cons_append, readString_eq_none hbasic hliteral] at hread
    cases hread

namespace Value.IsPlain

/-- What is written for a plain value starts neither with a blank nor with a bracket, so it is read
as a scalar. -/
theorem exists_text (h : v.IsPlain) :
    ∃ x t, v.text.toList = x :: t ∧ x ∉ [' ', '\t', '[', '\x7b'] := by
  cases v with
  | string text =>
    obtain ⟨x, t, htext, hx⟩ := exists_stringText text
    rw [Value.text, htext]
    exact ⟨x, t, rfl, by rcases hx with rfl | rfl <;> decide⟩
  | integer n =>
    obtain ⟨x, t, htext, hx⟩ := exists_toString n
    rw [Value.text, htext]
    refine ⟨x, t, rfl, ?_⟩
    intro hmem
    simp only [List.mem_cons, List.not_mem_nil, or_false] at hmem
    rcases hmem with rfl | rfl | rfl | rfl <;> exact absurd hx (by decide)
  | boolean b => cases b <;> exact ⟨_, _, rfl, by decide⟩
  | _ => exact absurd h id

/-- A plain value is read as a scalar, by the reader of its own kind: those that are tried before it
see from the first character that it is none of theirs. -/
theorem readScalar_text (h : v.IsPlain) (r : List Char) :
    readScalar (v.text.toList ++ '\n' :: r) = some (v, '\n' :: r) := by
  -- A string is told by its quote, an integer by its digits, a truth value by its word.
  cases v with
  | string text =>
    have hread := readString_stringText text r
    obtain ⟨x, t, htext, hx⟩ := exists_stringText text
    rw [Value.text]
    rw [htext, List.cons_append] at hread ⊢
    rcases hx with rfl | rfl
    · rw [readScalar, hread]
      rfl
    · rw [readScalar, hread]
      rfl
  | integer n =>
    have hdate := @startsWithDigits_toString '-' n (by decide) (by decide) 4 (by decide) r
    have htime := @startsWithDigits_toString ':' n (by decide) (by decide) 2 (by decide) r
    have hread := readNumber_toString n r
    have hfits : integer? n = some (.integer n) := if_pos h
    obtain ⟨x, t, htext, hx⟩ := exists_toString n
    rw [Value.text]
    rw [htext, List.cons_append] at hdate htime hread ⊢
    rw [readScalar_of_number hx hdate htime, hread, hfits]
    rfl
  | boolean b => cases b <;> rfl
  | _ => exact absurd h id

/-- A plain value is read from what is written for it, however deep it stands: no depth is used up
by a scalar. -/
theorem readValue_text (h : v.IsPlain) (depth : Nat) (r : List Char) :
    readValue depth (v.text.toList ++ '\n' :: r) = some (v, '\n' :: r) := by
  have hscalar := h.readScalar_text r
  obtain ⟨x, t, htext, hx⟩ := h.exists_text
  rw [htext, List.cons_append] at hscalar ⊢
  cases depth <;>
  · unfold readValue
    split
    · rename_i heq
      cases heq
      exact absurd hx (by decide)
    · rename_i heq
      cases heq
      exact absurd hx (by decide)
    · exact hscalar

/-- No blank stands in front of what is written for a plain value. -/
theorem skipSpace_text (h : v.IsPlain) (r : List Char) :
    skipSpace (v.text.toList ++ r) = v.text.toList ++ r := by
  obtain ⟨x, t, htext, hx⟩ := h.exists_text
  have hspace : isSpace x = false := by
    simp only [List.mem_cons, List.not_mem_nil, or_false, not_or] at hx
    simp [isSpace, hx.1, hx.2.1]
  rw [htext, List.cons_append, skipSpace, List.dropWhile_cons_of_neg (by simp [hspace])]

end Value.IsPlain

end DeviceRegistry.Toml
