import Mathlib.Algebra.Group.Nat.Defs
import DeviceRegistry.Proofs.Time.RoundTrip

/-!
# `DeviceRegistry.Proofs.Time.Shortest`: instants are written as short as they can be

A second has 0, 3, 6 or 9 fraction digits in a document, and never more of them than it takes to be
exact. Main statements:

* `isExactFraction_fractionText`: the digits of a fraction.
* `isShortest_render`: the text of an instant.
-/

set_option autoImplicit false

namespace DeviceRegistry.Instant

/-- How many digits a fraction may have. -/
def fractionWidths : List Nat := [0, 3, 6, 9]

/-- Digits that stand for a number of nanoseconds, and no fewer would. -/
structure IsExactFraction (nanos : Nat) (digits : List Char) : Prop where
  width : digits.length ∈ fractionWidths
  areDigits : ∀ c ∈ digits, c.isDigit = true
  exact : digitsValue digits * 10 ^ (9 - digits.length) = nanos
  fewest : ∀ width ∈ fractionWidths, width < digits.length → nanos % 10 ^ (9 - width) ≠ 0

/-- A number that fills its width stands for that many units. That fewer digits would not do is left
to the caller, who has tried them. -/
theorem isExactFraction_padded {nanos n width : Nat} (hwidth : width ∈ [3, 6, 9])
    (hn : n * 10 ^ (9 - width) = nanos) (hnanos : nanos < 1000000000)
    (hfewest : ∀ width' ∈ fractionWidths, width' < width → nanos % 10 ^ (9 - width') ≠ 0) :
    IsExactFraction nanos (padded width n) := by
  -- In each width the number is small enough to fill it.
  have hlength : (padded width n).length = width := by
    simp only [List.mem_cons, List.not_mem_nil, or_false] at hwidth
    refine length_padded (by omega) ?_
    rcases hwidth with rfl | rfl | rfl
    · show n < 1000
      omega
    · show n < 1000000
      omega
    · show n < 1000000000
      omega
  constructor
  · rw [hlength]
    exact List.mem_cons_of_mem _ hwidth
  · exact fun c => isDigit_of_mem_padded
  · rw [hlength, digitsValue_padded, hn]
  · rw [hlength]
    exact hfewest

/-- The digits of a fraction are exact, and as few as can be: milliseconds are tried before
microseconds, and these before nanoseconds. -/
theorem isExactFraction_fractionText {nanos : Nat} (h : nanos < 1000000000) :
    ∃ digits, fractionText nanos = (if digits = [] then [] else '.' :: digits) ∧
      IsExactFraction nanos digits := by
  unfold fractionText
  by_cases h0 : nanos = 0
  · subst h0
    exact ⟨[], rfl, by decide, nofun, rfl, nofun⟩
  have hone : nanos % 1000000000 ≠ 0 := by omega
  rw [if_neg h0]
  -- The fewest digits are tried first, so those that were passed over would not have been exact.
  by_cases hmillis : nanos % 1000000 = 0
  · refine ⟨padded 3 (nanos / 1000000), ?_, isExactFraction_padded (by decide) ?_ h ?_⟩
    · rw [if_pos hmillis, if_neg (padded_ne_nil _ _)]
    · show nanos / 1000000 * 1000000 = nanos
      omega
    · simp [fractionWidths, hone]
  rw [if_neg hmillis]
  by_cases hmicros : nanos % 1000 = 0
  · refine ⟨padded 6 (nanos / 1000), ?_, isExactFraction_padded (by decide) ?_ h ?_⟩
    · rw [if_pos hmicros, if_neg (padded_ne_nil _ _)]
    · show nanos / 1000 * 1000 = nanos
      omega
    · simp [fractionWidths, hone, hmillis]
  · refine ⟨padded 9 nanos, ?_, isExactFraction_padded (by decide) (Nat.mul_one _) h ?_⟩
    · rw [if_neg hmicros, if_neg (padded_ne_nil _ _)]
    · simp [fractionWidths, hone, hmillis, hmicros]

/-- A text for an instant in UTC, with date and time in numbers of fixed width and the fewest digits
of the second that are exact. -/
structure IsShortest (t : Instant) (text : String) : Prop where
  reads : parse text = .ok t
  form : ∃ (year : Int) (month day hour minute second : Nat) (digits : List Char),
    text.toList = yearText year ++ '-' :: padded 2 month ++ '-' :: padded 2 day ++ 'T' ::
      padded 2 hour ++ ':' :: padded 2 minute ++ ':' :: padded 2 second ++
      (if digits = [] then [] else '.' :: digits) ++ ['Z'] ∧
    IsExactFraction (t.nanos % 1000000000) digits

/-- An instant of the calendar is written as short as it can be, and in one form only: numbers of
fixed width, and the letter for UTC. -/
theorem isShortest_render {t : Instant} (h : t.InCalendar) : t.IsShortest t.render where
  reads := parse_render h
  form := by
    obtain ⟨digits, hfraction, hexact⟩ := isExactFraction_fractionText (Nat.mod_lt t.nanos
      (show 0 < 1000000000 by decide))
    -- Inside a leap second the fraction is what is beyond the whole second, which is the remainder
    -- either way.
    have hnanos : (if t.isLeap then t.nanos - 1000000000 else t.nanos) = t.nanos % 1000000000 := by
      have hlow := h.nanos
      by_cases hleap : t.isLeap = true
      · have hle : 1000000000 ≤ t.nanos := by simpa [isLeap] using hleap
        rw [if_pos hleap]
        omega
      · have hlt : t.nanos < 1000000000 := by simpa [isLeap] using hleap
        rw [if_neg hleap]
        omega
    obtain ⟨⟨year, month, day⟩, hdate⟩ : ∃ date, dateOfDays (t.seconds / 86400) = date := ⟨_, rfl⟩
    rw [render, String.toList_ofList, civilText, hdate, hnanos]
    dsimp only
    rw [hfraction]
    exact ⟨year, month, day, _, _, _, digits, rfl, hexact⟩

end DeviceRegistry.Instant
