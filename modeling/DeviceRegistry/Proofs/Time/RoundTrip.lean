import DeviceRegistry.Proofs.Steps
import DeviceRegistry.Proofs.Time.Calendar
import DeviceRegistry.Proofs.Time.Digits

/-!
# `DeviceRegistry.Proofs.Time.RoundTrip`: instants survive being written

`InCalendar` says which instants a text can name: seconds that are representable, with a fraction of
a second, or with the fraction of a leap second at the end of a minute. The theorems:

* `parse_render`: the text of such an instant reads back as the instant.
* `inCalendar_of_parse`: nothing else is ever read.
* `exists_parse_iff`: together, `InCalendar` is exactly what reading can produce.
-/

set_option autoImplicit false

namespace DeviceRegistry.Instant

open DeviceRegistry.Text (isBlank trimFront)

/-- An instant of the calendar. Leap seconds end a minute. -/
structure InCalendar (t : Instant) : Prop where
  seconds : inRange t.seconds = true
  nanos : t.nanos < 1000000000 ∨ (t.nanos < 2000000000 ∧ t.seconds % 60 = 59)

/-! ### Reading the parts -/

/-- A mark that is no blank is read off. Blanks in front of a mark would be skipped, and there are
none in what is written. -/
theorem readMark_cons {mark : Char} (s : List Char) (h : isBlank mark = false) :
    readMark mark (mark :: s) = .ok ((), s) := by
  unfold readMark
  rw [trimFront_cons s h]
  simp

/-- A year with a minus sign has as many digits as follow the sign, and is negative. -/
theorem readYear_negative {n : Nat} {s rest : List Char}
    (h : readDigits s.length s = .ok (n, rest)) (hn : n ≤ 2147483648) :
    readYear ('-' :: s) = .ok (-(n : Int), rest) := by
  have hrange : -2147483648 ≤ -(n : Int) ∧ -(n : Int) ≤ 2147483647 := by omega
  unfold readYear
  rw [trimFront_cons s (by decide)]
  show ((readDigits s.length s).map _ >>= _) = _
  rw [h]
  show (if -2147483648 ≤ -(n : Int) ∧ -(n : Int) ≤ 2147483647 then _ else _) = _
  rw [if_pos hrange]
  rfl

/-- A year with a plus sign has as many digits as follow the sign. It is how years of more than four
digits are written. -/
theorem readYear_positive {n : Nat} {s rest : List Char}
    (h : readDigits s.length s = .ok (n, rest)) (hn : n ≤ 2147483647) :
    readYear ('+' :: s) = .ok ((n : Int), rest) := by
  have hrange : -2147483648 ≤ (n : Int) ∧ (n : Int) ≤ 2147483647 := by omega
  unfold readYear
  rw [trimFront_cons s (by decide)]
  show ((readDigits s.length s).map _ >>= _) = _
  rw [h]
  show (if -2147483648 ≤ (n : Int) ∧ (n : Int) ≤ 2147483647 then _ else _) = _
  rw [if_pos hrange]
  rfl

/-- A year without a sign has at most four digits. All others are written with a sign, so a run of
digits is not read too far. -/
theorem readYear_plain {n : Nat} {c : Char} {s rest : List Char} (hc : c.isDigit = true)
    (h : readDigits 4 (c :: s) = .ok (n, rest)) (hn : n ≤ 2147483647) :
    readYear (c :: s) = .ok ((n : Int), rest) := by
  have hrange : -2147483648 ≤ (n : Int) ∧ (n : Int) ≤ 2147483647 := by omega
  unfold readYear
  rw [trimFront_cons s (isBlank_of_isDigit hc)]
  -- A digit is neither sign, so the reader takes the branch without one.
  dsimp only
  split
  · rename_i heq
    cases heq
    exact absurd hc (by decide)
  · rename_i heq
    cases heq
    exact absurd hc (by decide)
  · show ((readDigits 4 (c :: s)).map _ >>= _) = _
    rw [h]
    show (if -2147483648 ≤ (n : Int) ∧ (n : Int) ≤ 2147483647 then _ else _) = _
    rw [if_pos hrange]
    rfl

/-- A written year is read back, up to the mark behind it. Years that need no more than four digits
have no sign, unless they are negative, and all others have one. -/
theorem readYear_yearText {year : Int} (rest : List Char) (hlow : -2147483648 ≤ year)
    (hhigh : year ≤ 2147483647) :
    readYear (yearText year ++ '-' :: rest) = .ok (year, '-' :: rest) := by
  have hstop : ∀ c ∈ ('-' :: rest).head?, c.isDigit = false := by
    intro c hc
    cases hc
    rfl
  -- Behind a sign the width of the reader is what is left of the text, so the mark ends the run.
  have hsigned : readDigits (padded 4 year.natAbs ++ '-' :: rest).length
      (padded 4 year.natAbs ++ '-' :: rest) = .ok (year.natAbs, '-' :: rest) :=
    readDigits_padded (by simp) (.inr hstop) (by omega)
  unfold yearText
  by_cases hneg : year < 0
  · have habs : -(year.natAbs : Int) = year := by omega
    rw [if_pos hneg, List.cons_append, readYear_negative hsigned (by omega), habs]
  · have habs : (year.natAbs : Int) = year := by omega
    rw [if_neg hneg]
    by_cases hlong : 9999 < year
    · rw [if_pos hlong, List.cons_append, readYear_positive hsigned (by omega), habs]
    · have hlen : (padded 4 year.natAbs).length = 4 :=
        length_padded (by decide) (show year.natAbs < 10000 by omega)
      have hplain : readDigits 4 (padded 4 year.natAbs ++ '-' :: rest) =
          .ok (year.natAbs, '-' :: rest) :=
        readDigits_padded (Nat.le_of_eq hlen) (.inl hlen) (by omega)
      rw [if_neg hlong]
      -- The reader looks at the first character, which is a digit here.
      cases hdigits : padded 4 year.natAbs with
      | nil => exact absurd hdigits (padded_ne_nil 4 _)
      | cons c s =>
        have hc : c.isDigit = true :=
          isDigit_of_mem_padded (by rw [hdigits]; exact List.mem_cons_self)
        rw [hdigits, List.cons_append] at hplain
        rw [List.cons_append, readYear_plain hc hplain (by omega), habs]

/-- A written fraction of a second is read back, up to the zone behind it. It has three, six or nine
digits, or is left out. -/
theorem readFraction_fractionText {nanos : Nat} (h : nanos < 1000000000) :
    readFraction (fractionText nanos ++ ['Z']) = .ok (nanos, ['Z']) := by
  have hstop : ∀ c ∈ (['Z'] : List Char).head?, c.isDigit = false := by
    intro c hc
    cases hc
    rfl
  -- The three widths are read in the same way: as many digits as were written, scaled up to nine.
  have hread : ∀ w k, 0 < w → w ≤ 9 → k < Nat.pow 10 w → k * Nat.pow 10 (9 - w) = nanos →
      readFraction ('.' :: padded w k ++ ['Z']) = .ok (nanos, ['Z']) := by
    intro w k hpos hw hk hscale
    have hlen := length_padded hpos hk
    have hdigits : readDigits 9 (padded w k ++ ['Z']) = .ok (k, ['Z']) := by
      refine readDigits_padded (by omega) (.inr hstop) ?_
      have : Nat.pow 10 w ≤ Nat.pow 10 9 := Nat.pow_le_pow_right (by decide) hw
      have : Nat.pow 10 9 = 1000000000 := rfl
      omega
    show (readDigits 9 (padded w k ++ ['Z']) >>= _) = _
    rw [hdigits]
    show Except.ok (k * Nat.pow 10 (9 - ((padded w k ++ ['Z']).length - 1)), _) = _
    have hpassed : (padded w k ++ ['Z']).length - 1 = w := by simp [hlen]
    rw [hpassed, hscale]
    rfl
  unfold fractionText
  by_cases hzero : nanos = 0
  · subst hzero
    rfl
  · rw [if_neg hzero]
    by_cases hmillis : nanos % 1000000 = 0
    · rw [if_pos hmillis]
      exact hread 3 (nanos / 1000000) (by decide) (by decide)
        (show nanos / 1000000 < 1000 by omega) (show nanos / 1000000 * 1000000 = nanos by omega)
    · rw [if_neg hmillis]
      by_cases hmicros : nanos % 1000 = 0
      · rw [if_pos hmicros]
        exact hread 6 (nanos / 1000) (by decide) (by decide)
          (show nanos / 1000 < 1000000 by omega) (show nanos / 1000 * 1000 = nanos by omega)
      · rw [if_neg hmicros]
        exact hread 9 nanos (by decide) (by decide) h (Nat.mul_one nanos)

/-! ### Reading the whole -/

/-- The written parts of date and time are read back, one after the other: each reader stops at the
mark that the next one expects. -/
theorem readCivil_text {year : Int} {month day hour minute second nanos : Nat}
    (hyear : -2147483648 ≤ year ∧ year ≤ 2147483647) (hmonth : 1 ≤ month ∧ month ≤ 12)
    (hday : 1 ≤ day ∧ day ≤ 31) (hhour : hour ≤ 23) (hminute : minute ≤ 59)
    (hsecond : second ≤ 60) (hnanos : nanos < 1000000000) :
    readCivil (yearText year ++ '-' :: (padded 2 month ++ '-' :: (padded 2 day ++ 'T' ::
        (padded 2 hour ++ ':' :: (padded 2 minute ++ ':' :: (padded 2 second ++
          (fractionText nanos ++ ['Z']))))))) =
      .ok (⟨year, month, day, hour, minute, second, nanos, 0⟩, []) := by
  have hzone : readZone ['Z'] = .ok (0, []) := rfl
  have hseparator : ∀ s, readSeparator ('T' :: s) = .ok ((), s) := fun _ => rfl
  -- Every step of the reader is known, in the order in which the parts stand.
  unfold readCivil
  simp only [readYear_yearText _ hyear.1 hyear.2, except_bind_ok,
    readMark_cons _ (show isBlank '-' = false by decide),
    readMark_cons _ (show isBlank ':' = false by decide),
    readField_padded _ hmonth.1 hmonth.2 (by omega : month < 100),
    readField_padded _ hday.1 hday.2 (by omega : day < 100), hseparator,
    readField_padded _ (Nat.zero_le hour) hhour (by omega),
    readField_padded _ (Nat.zero_le minute) hminute (by omega),
    readField_padded _ (Nat.zero_le second) hsecond (by omega),
    readFraction_fractionText hnanos, hzone, except_pure]

/-- The days of the seconds that are representable, within rough bounds that are enough for the
year. -/
theorem days_of_inRange {seconds : Int} (h : inRange seconds = true) :
    -100000000 ≤ seconds / 86400 ∧ seconds / 86400 ≤ 100000000 := by
  have hleast : leastSecond = -8334601228800 := by decide
  have hgreatest : greatestSecond = 8210266876799 := by decide
  simp only [inRange, hleast, hgreatest, Bool.and_eq_true, decide_eq_true_eq] at h
  omega

/-- The parts of the text of an instant denote the instant. Seconds are split into days and the time
of day and put together again, and a leap second is written as the second 60. -/
theorem instant_civil {t : Instant} (h : t.InCalendar) {year : Int} {month day : Nat}
    (hdate : dateOfDays (t.seconds / 86400) = (year, month, day)) :
    Civil.instant ⟨year, month, day, (t.seconds % 86400).toNat / 3600,
      (t.seconds % 86400).toNat / 60 % 60,
      (t.seconds % 86400).toNat % 60 + (if t.isLeap then 1 else 0),
      if t.isLeap then t.nanos - 1000000000 else t.nanos, 0⟩ = .ok t := by
  have hcount := daysOfDate_dateOfDays (t.seconds / 86400)
  have hday := (day_dateOfDays (t.seconds / 86400)).2
  rw [hdate] at hcount hday
  dsimp only at hcount hday
  -- A leap second is written as second 60 and read as the nanoseconds past the second 59.
  have hsecond : min ((t.seconds % 86400).toNat % 60 + (if t.isLeap then 1 else 0)) 59 =
      (t.seconds % 86400).toNat % 60 := by
    rcases h.nanos with hn | ⟨-, hn⟩
    · have hplain : t.isLeap = false := by simp [isLeap, hn]
      rw [hplain]
      simp only [Bool.false_eq_true, if_false]
      omega
    · split <;> omega
  have hnanos : (if t.isLeap then t.nanos - 1000000000 else t.nanos) +
      (if (t.seconds % 86400).toNat % 60 + (if t.isLeap then 1 else 0) = 60
        then 1000000000 else 0) = t.nanos := by
    by_cases hleap : t.isLeap = true
    · have hlarge : 1000000000 ≤ t.nanos := by simpa [isLeap] using hleap
      have hend : (t.seconds % 86400).toNat % 60 + 1 = 60 := by
        rcases h.nanos with hn | ⟨-, hn⟩ <;> omega
      simp only [hleap, if_true, hend]
      omega
    · have hend : (t.seconds % 86400).toNat % 60 ≠ 60 := by omega
      simp [hleap, hend]
  have hhere : daysOfDate year month day * 86400 +
      (((t.seconds % 86400).toNat / 3600 * 3600 + (t.seconds % 86400).toNat / 60 % 60 * 60 +
        (t.seconds % 86400).toNat % 60 : Nat) : Int) = t.seconds := by
    rw [hcount]
    omega
  unfold Civil.instant
  dsimp only
  rw [hsecond, hnanos, hhere]
  have hfits : ¬ (daysInMonth year month < day ∨ (!inRange t.seconds) = true) := by
    rw [h.seconds]
    simp only [Bool.not_true, Bool.false_eq_true, or_false]
    omega
  rw [if_neg hfits, if_neg (by decide), Int.sub_zero, if_neg (by rw [h.seconds]; decide)]

/-- The text of an instant of the calendar reads back as the instant. Nothing is lost, since the
fraction is written with as many digits as it needs. -/
theorem parse_render {t : Instant} (h : t.InCalendar) : parse t.render = .ok t := by
  obtain ⟨hlow, hhigh⟩ := days_of_inRange h.seconds
  have hyear := year_dateOfDays hlow hhigh
  have hmonth := month_dateOfDays (t.seconds / 86400)
  have hday := day_dateOfDays (t.seconds / 86400)
  cases hdate : dateOfDays (t.seconds / 86400) with
  | mk year md =>
    obtain ⟨month, day⟩ := md
    rw [hdate] at hyear hmonth hday
    dsimp only at hyear hmonth hday
    have hlong : daysInMonth year month ≤ 31 := by
      unfold daysInMonth
      repeat' split
      all_goals decide
    -- Each part of the text is read back on its own, and the parts denote the instant again.
    have hinstant := instant_civil h hdate
    have htext : t.render.toList = yearText year ++ '-' :: (padded 2 month ++ '-' ::
        (padded 2 day ++ 'T' :: (padded 2 ((t.seconds % 86400).toNat / 3600) ++ ':' ::
          (padded 2 ((t.seconds % 86400).toNat / 60 % 60) ++ ':' ::
            (padded 2 ((t.seconds % 86400).toNat % 60 + (if t.isLeap then 1 else 0)) ++
              (fractionText (if t.isLeap then t.nanos - 1000000000 else t.nanos) ++
                ['Z'])))))) := by
      simp only [render, civilText, hdate, String.toList_ofList, List.append_assoc,
        List.cons_append]
    have hleap : (if t.isLeap then 1 else 0) ≤ 1 := by split <;> decide
    have hnanos : (if t.isLeap then t.nanos - 1000000000 else t.nanos) < 1000000000 := by
      by_cases hl : t.isLeap = true
      · rcases h.nanos with hn | ⟨hn, -⟩ <;> simp only [hl, if_true] <;> omega
      · have : t.nanos < 1000000000 := by simpa [isLeap] using hl
        simpa [hl] using this
    unfold parse
    rw [htext, readCivil_text (by omega) hmonth (by omega) (by omega) (by omega) (by omega) hnanos,
      except_bind_ok]
    exact hinstant

/-! ### Nothing else is read -/

/-- An offset is a number of minutes, whichever of its forms it has. So the seconds of an instant
are those of its text, in every zone. -/
theorem readOffset_minutes {s rest : List Char} {offset : Int}
    (h : readOffset s = .ok (offset, rest)) : offset % 60 = 0 := by
  unfold readOffset at h
  split at h
  · cases h
    rfl
  · cases h
    rfl
  -- Hours and minutes of the offset are whole numbers, so it has no seconds.
  · simp only [except_bind_eq_ok, Prod.exists] at h
    obtain ⟨negative, _, -, hours, _, -, minutes, _, -, h⟩ := h
    split at h
    · cases h
      split <;> omega
    · cases h

/-- A zone is a number of minutes away from UTC, so it does not move an instant within a minute. -/
theorem readZone_minutes {s rest : List Char} {offset : Int}
    (h : readZone s = .ok (offset, rest)) : offset % 60 = 0 := by
  unfold readZone at h
  dsimp only at h
  split at h
  · cases h
    rfl
  · exact readOffset_minutes h

/-- The parts that are read have a fraction of less than a second and an offset of minutes. -/
theorem readCivil_bounds {s rest : List Char} {c : Civil} (h : readCivil s = .ok (c, rest)) :
    c.nanos < 1000000000 ∧ c.offset % 60 = 0 := by
  unfold readCivil at h
  simp only [except_bind_eq_ok, Prod.exists] at h
  obtain ⟨_, _, -, _, _, -, _, _, -, _, _, -, _, _, -, _, _, -, _, _, -, _, _, -, _, _, -, _, _,
    -, _, _, -, _, _, hfraction, _, _, hzone, h⟩ := h
  cases h
  exact ⟨readFraction_lt hfraction, readZone_minutes hzone⟩

/-- Parts within their bounds denote an instant of the calendar: a second 60 becomes a leap second
of the second before, which ends a minute whatever the offset is. -/
theorem inCalendar_of_civil {c : Civil} {t : Instant} (hnanos : c.nanos < 1000000000)
    (hoffset : c.offset % 60 = 0) (h : c.instant = .ok t) : t.InCalendar := by
  unfold Civil.instant at h
  dsimp only at h
  split at h
  · cases h
  · split at h
    · cases h
    · split at h
      · cases h
      · rename_i hrange
        cases h
        refine ⟨by simpa using hrange, ?_⟩
        dsimp only
        by_cases hleap : c.second = 60
        · -- Offsets are whole minutes, so they do not move the end of a minute.
          refine .inr ⟨by rw [if_pos hleap]; omega, ?_⟩
          rw [hleap]
          omega
        · exact .inl (by rw [if_neg hleap]; omega)

/-- Only instants of the calendar are ever read, because every part is checked against its bounds
before they are put together. -/
theorem inCalendar_of_parse {text : String} {t : Instant} (h : parse text = .ok t) :
    t.InCalendar := by
  unfold parse at h
  simp only [except_bind_eq_ok, Prod.exists] at h
  obtain ⟨c, rest, hread, h⟩ := h
  obtain ⟨hnanos, hoffset⟩ := readCivil_bounds hread
  split at h
  · exact inCalendar_of_civil hnanos hoffset h
  · cases h

/-- Reading produces the instants of the calendar and no others. So what is known of an instant that
has been read is exactly that it is in the calendar. -/
theorem exists_parse_iff {t : Instant} : (∃ text, parse text = .ok t) ↔ t.InCalendar :=
  ⟨fun ⟨_, h⟩ => inCalendar_of_parse h, fun h => ⟨t.render, parse_render h⟩⟩

end DeviceRegistry.Instant
