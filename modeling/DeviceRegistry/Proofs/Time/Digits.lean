import DeviceRegistry.Time.Reader
import DeviceRegistry.Time.Text

/-!
# `DeviceRegistry.Proofs.Time.Digits`: numbers in the text of an instant

`padded` writes a number filled up with zeros, `readDigits` reads a run of digits. The theorems:

* `readDigits_padded`: a reader reads back what was written, when the run of digits ends there. It
  ends where the width of the reader does, or where no digit follows.
* `readField_padded`: the same for a part of two digits, which has bounds.
* `digitsValue_lt` / `readFraction_lt`: how large a number of a given width can be.
-/

set_option autoImplicit false

namespace DeviceRegistry.Instant

open DeviceRegistry.Text (isBlank trimFront)

/-! ### Digits -/

/-- No digit is white space, so a reader that skips blanks first does not touch it. -/
theorem isBlank_of_isDigit {c : Char} (h : c.isDigit = true) : isBlank c = false := by
  have hc : 48 ≤ c.toNat ∧ c.toNat ≤ 57 := by
    simpa [Char.isDigit, UInt32.le_iff_toNat_le] using h
  unfold isBlank
  simp only [Bool.or_eq_false_iff, Bool.and_eq_false_iff, decide_eq_false_iff_not,
    beq_eq_false_iff_ne]
  omega

/-- Front trimming keeps a text that starts with no blank, as every written part of an instant
does. -/
theorem trimFront_cons {c : Char} (s : List Char) (h : isBlank c = false) :
    trimFront (c :: s) = c :: s := by
  simp [trimFront, h]

/-- A written number has digits only, those that fill it up included. -/
theorem isDigit_of_mem_padded {w n : Nat} {c : Char} (h : c ∈ padded w n) : c.isDigit = true := by
  simp only [padded, List.mem_append, List.mem_replicate] at h
  rcases h with ⟨-, rfl⟩ | h
  · decide
  · exact Nat.isDigit_of_mem_toDigits (by decide) (by decide) h

/-- A written number that is not too large fills its width. A larger one would be longer and be cut
by a reader of that width. -/
theorem length_padded {w n : Nat} (hw : 0 < w) (h : n < Nat.pow 10 w) :
    (padded w n).length = w := by
  have hlen : (Nat.toDigits 10 n).length ≤ w :=
    (Nat.length_toDigits_le_iff (by decide) hw).2 h
  simp only [padded, List.length_append, List.length_replicate]
  omega

/-- A written number is not empty, even when it is zero and no width is asked for. -/
theorem padded_ne_nil (w n : Nat) : padded w n ≠ [] := by
  simp [padded]

/-- The value of a run of digits, the first being the highest, as the library has it. -/
theorem digitsValue_eq (ds : List Char) : digitsValue ds = Nat.ofDigitChars 10 ds 0 := by
  unfold digitsValue Nat.ofDigitChars
  congr 1
  funext n c
  rw [Nat.mul_comm]
  rfl

/-- The value of a written number is the number, since zeros in front do not count. -/
theorem digitsValue_padded (w n : Nat) : digitsValue (padded w n) = n := by
  rw [digitsValue_eq, padded, Nat.ofDigitChars_append, Nat.ofDigitChars_replicate_zero]
  simp

/-! ### Runs of digits -/

/-- The digits at the start of a text are those of a number that is written there, when the run of
digits ends with the number. -/
theorem takeWhile_padded {width w n : Nat} {rest : List Char} (hw : (padded w n).length ≤ width)
    (hend : (padded w n).length = width ∨ ∀ c ∈ rest.head?, c.isDigit = false) :
    ((padded w n ++ rest).take width).takeWhile Char.isDigit = padded w n := by
  have hall : ∀ c ∈ padded w n, c.isDigit = true := fun c => isDigit_of_mem_padded
  rw [List.take_append, List.take_of_length_le hw, List.takeWhile_append_of_pos hall]
  -- Either the width is used up, or the next character stops the run.
  rcases hend with hfull | hnext
  · simp [hfull]
  · cases rest with
    | nil => simp
    | cons c rest =>
      have hc : c.isDigit = false := hnext c rfl
      -- Only when there is width left does the next character matter.
      cases width - (padded w n).length with
      | zero => simp
      | succ k => simp [hc]

/-- A reader of digits reads back a written number, if it fits in 63 bits. The parts of a date and
the fraction of a second are all read like this. -/
theorem readDigits_padded {width w n : Nat} {rest : List Char} (hw : (padded w n).length ≤ width)
    (hend : (padded w n).length = width ∨ ∀ c ∈ rest.head?, c.isDigit = false)
    (hn : n ≤ 9223372036854775807) :
    readDigits width (padded w n ++ rest) = .ok (n, rest) := by
  unfold readDigits
  dsimp only
  rw [takeWhile_padded hw hend, digitsValue_padded, if_pos hn]
  have hne := padded_ne_nil w n
  simp [hne]

/-- The parts of two digits are read back when they are within their bounds: month, day, hour,
minute and second. -/
theorem readField_padded {low high n : Nat} (rest : List Char) (hlow : low ≤ n) (hhigh : n ≤ high)
    (hn : n < 100) : readField low high (padded 2 n ++ rest) = .ok (n, rest) := by
  have hlen : (padded 2 n).length = 2 := length_padded (by decide) hn
  have htrim : trimFront (padded 2 n ++ rest) = padded 2 n ++ rest := by
    cases h : padded 2 n with
    | nil => exact absurd h (padded_ne_nil 2 n)
    | cons c s =>
      have hc : c.isDigit = true := isDigit_of_mem_padded (by rw [h]; exact List.mem_cons_self)
      exact trimFront_cons _ (isBlank_of_isDigit hc)
  unfold readField
  rw [htrim, readDigits_padded (Nat.le_of_eq hlen) (.inl hlen) (by omega)]
  show (if low ≤ n ∧ n ≤ high then _ else _) = _
  rw [if_pos ⟨hlow, hhigh⟩]
  rfl

/-! ### Bounds of what is read -/

/-- A run of digits is smaller than the power of ten of its length. So a fraction of nine digits is
less than a second. -/
theorem digitsValue_lt {ds : List Char} (h : ∀ c ∈ ds, c.isDigit = true) :
    digitsValue ds < Nat.pow 10 ds.length := by
  induction ds with
  | nil => decide
  | cons c ds ih =>
    have hc : c.toNat - '0'.toNat ≤ 9 := by
      have hdigit := h c List.mem_cons_self
      simp only [Char.isDigit, UInt32.le_iff_toNat_le, Bool.and_eq_true, decide_eq_true_eq]
        at hdigit
      have hle : c.toNat ≤ 57 := hdigit.2
      change c.toNat - 48 ≤ 9
      omega
    have htail := ih fun x hx => h x (List.mem_cons_of_mem c hx)
    have hscale := Nat.mul_le_mul_left (Nat.pow 10 ds.length) hc
    rw [digitsValue_eq] at htail ⊢
    rw [Nat.ofDigitChars_cons, Nat.ofDigitChars_eq_ofDigitChars_zero, Nat.mul_zero, Nat.zero_add]
    -- The first digit counts for at most nine times the power that bounds the others.
    change Nat.pow 10 ds.length * _ + _ < Nat.pow 10 ds.length * 10
    omega

/-- What a reader of digits reads is the value of a run of digits, not longer than its width, that
it has passed over. -/
theorem readDigits_ok {width n : Nat} {s rest : List Char}
    (h : readDigits width s = .ok (n, rest)) :
    ∃ ds, s = ds ++ rest ∧ ds.length ≤ width ∧ (∀ c ∈ ds, c.isDigit = true) ∧
      n = digitsValue ds := by
  unfold readDigits at h
  dsimp only at h
  -- The run is at the start of the text, and what is handed on is what comes behind it.
  have hpre : (s.take width).takeWhile Char.isDigit <+: s :=
    (List.takeWhile_prefix _).trans (List.take_prefix width s)
  have hlen : ((s.take width).takeWhile Char.isDigit).length ≤ width :=
    Nat.le_trans (List.takeWhile_prefix _).length_le (List.length_take_le width s)
  split at h
  · cases h
  · split at h
    · cases h
    · split at h
      · cases h
        refine ⟨_, (List.prefix_iff_eq_append.1 hpre).symm, hlen, fun c hc => ?_, rfl⟩
        exact List.all_eq_true.1 List.all_takeWhile c hc
      · cases h

/-- The fraction of a second is smaller than a second: up to nine digits are read, and scaled up by
as many places as are missing. -/
theorem readFraction_lt {s rest : List Char} {n : Nat} (h : readFraction s = .ok (n, rest)) :
    n < 1000000000 := by
  unfold readFraction at h
  split at h
  · rename_i s
    cases hread : readDigits 9 s with
    | error e =>
      rw [hread] at h
      cases h
    | ok r =>
      obtain ⟨m, after⟩ := r
      rw [hread] at h
      cases h
      obtain ⟨ds, hs, hlen, hdigits, rfl⟩ := readDigits_ok hread
      have hlt := digitsValue_lt hdigits
      have hpassed : s.length - after.length = ds.length := by
        rw [hs, List.length_append]
        omega
      have hpos : 0 < Nat.pow 10 (9 - ds.length) := Nat.pow_pos (by decide)
      -- The digits that are missing at the end are zeros.
      rw [hpassed]
      calc digitsValue ds * Nat.pow 10 (9 - ds.length)
          < Nat.pow 10 ds.length * Nat.pow 10 (9 - ds.length) :=
            Nat.mul_lt_mul_of_pos_right hlt hpos
        _ = Nat.pow 10 (ds.length + (9 - ds.length)) := (Nat.pow_add 10 _ _).symm
        _ = 1000000000 := by rw [Nat.add_sub_cancel' hlen]
  · cases h
    decide

end DeviceRegistry.Instant
