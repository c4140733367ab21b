import DeviceRegistry.Time.Instant

/-!
# `DeviceRegistry.Proofs.Time.Elapsed`: instants as numbers

Outside leap seconds an instant is a number of nanoseconds (`Instant.elapsed`), and what is done
with instants is done with these numbers. They need not fit 64 bits, but a span in milliseconds is
found in steps that do (`millisInWords?`). The theorems:

* `addSeconds?_eq_some_iff`: the instant a number of seconds later is the sum, when there is one.
* `millisSince_eq`: the milliseconds between two instants.
* `millisInWords?_eq`: they are found without overflow.
* `le_iff`: the order of instants.
-/

set_option autoImplicit false

namespace DeviceRegistry.Instant

/-- An instant that is representable and not inside a leap second. -/
structure IsPlain (t : Instant) : Prop where
  seconds : inRange t.seconds = true
  nanos : t.nanos < 1000000000

/-- The nanoseconds from the start of 1970 to an instant. -/
def elapsed (t : Instant) : Int := t.seconds * 1000000000 + t.nanos

/-- The instant a number of seconds later, representable or not. -/
def later (t : Instant) (seconds : Int) : Instant := { t with seconds := t.seconds + seconds }

variable {t u a b : Instant} {seconds : Int}

/-- The seconds that are representable, as numbers: from the start of the first year of the calendar
to the end of the last. -/
theorem inRange_iff : inRange seconds = true ↔
    -8334601228800 ≤ seconds ∧ seconds ≤ 8210266876799 := by
  have hleast : leastSecond = -8334601228800 := by decide
  have hgreatest : greatestSecond = 8210266876799 := by decide
  simp only [inRange, hleast, hgreatest, Bool.and_eq_true, decide_eq_true_eq]

/-- The start of 1970 is a plain instant. A message that does not say when it was made counts from
there. -/
theorem isPlain_epoch : epoch.IsPlain := ⟨by decide, by decide⟩

/-- A plain instant lies in no leap second, so the rules for these can be left out. -/
theorem IsPlain.isLeap (h : t.IsPlain) : t.isLeap = false := by
  have hnanos := h.nanos
  simp only [Instant.isLeap, decide_eq_false_iff_not]
  omega

/-- A later instant is plain when it is representable, the fraction of its second being the same. -/
theorem IsPlain.later (h : t.IsPlain) (hlater : inRange (t.seconds + seconds) = true) :
    (t.later seconds).IsPlain :=
  ⟨hlater, h.nanos⟩

/-! ### Order -/

/-- Instants are in the order of their numbers: seconds first, and then what is less than a
second. -/
theorem le_iff (ha : a.IsPlain) (hb : b.IsPlain) : a.le b = true ↔ a.elapsed ≤ b.elapsed := by
  have hna := ha.nanos
  have hnb := hb.nanos
  simp only [le, elapsed, Bool.or_eq_true, Bool.and_eq_true, decide_eq_true_eq, beq_iff_eq]
  omega

/-! ### Sums -/

/-- The instant a number of seconds later is the sum. A span that is too long leads nowhere, from
wherever it starts. -/
theorem addSeconds?_eq_some_iff (ht : t.IsPlain) : t.addSeconds? seconds = some u ↔
    inRange (t.seconds + seconds) = true ∧ u = t.later seconds := by
  have hstart := (inRange_iff.1 ht.seconds).1
  unfold addSeconds?
  simp only [ht.isLeap, Bool.false_eq_true, if_false]
  by_cases hlong : greatestSpan < seconds
  · have hout : ¬ inRange (t.seconds + seconds) = true := by
      rw [inRange_iff]
      rw [greatestSpan] at hlong
      omega
    rw [if_pos hlong]
    simp [hout]
  · rw [if_neg hlong]
    by_cases hrange : inRange (t.seconds + seconds) = true
    · rw [if_pos hrange]
      simp [hrange, later, eq_comm]
    · rw [if_neg hrange]
      simp [hrange]

/-! ### Differences -/

/-- The nanoseconds between two plain instants are the difference of their numbers. -/
theorem nanosSince_eq (ha : a.IsPlain) (hb : b.IsPlain) :
    a.nanosSince b = a.elapsed - b.elapsed := by
  unfold nanosSince elapsed
  simp only [ha.isLeap, hb.isLeap, Bool.false_eq_true, and_false, if_false]
  omega

/-- The milliseconds between two instants are those between their numbers, rounded toward zero. -/
theorem millisSince_eq (ha : a.IsPlain) (hb : b.IsPlain) :
    a.millisSince b = (a.elapsed - b.elapsed).tdiv 1000000 := by
  rw [millisSince, nanosSince_eq ha hb]

/-- Nanoseconds that count forward are rounded down. Those that count backward are rounded up, which
is another case. -/
theorem millis_of_nonneg {n : Int} (h : 0 ≤ n) : n.tdiv 1000000 = n / 1000000 :=
  Int.tdiv_eq_ediv_of_nonneg h

/-- Nanoseconds that count backward are rounded up, which is down for the count forward. -/
theorem millis_of_nonpos {n : Int} (h : n ≤ 0) : n.tdiv 1000000 = -(-n / 1000000) := by
  rw [← millis_of_nonneg (Int.neg_nonneg_of_nonpos h), Int.neg_tdiv, Int.neg_neg]

/-- A whole millisecond lies between two instants when it does between their numbers. A part of one
is rounded to none. -/
theorem millisSince_pos_iff (ha : a.IsPlain) (hb : b.IsPlain) :
    0 < a.millisSince b ↔ b.elapsed + 1000000 ≤ a.elapsed := by
  rw [millisSince_eq ha hb]
  rcases Int.le_total 0 (a.elapsed - b.elapsed) with h | h
  · rw [millis_of_nonneg h]
    omega
  · rw [millis_of_nonpos h]
    omega

/-! ### Words -/

/-- What a step of arithmetic gives in 64 bits with a sign: none when the result does not fit. -/
def word? (n : Int) : Option Int :=
  if -0x8000000000000000 ≤ n ∧ n < 0x8000000000000000 then some n else none

/-- A step whose result fits gives this result. All steps below fit, so none of them is reported as
too large. -/
theorem word?_of_fits {n : Int} (h : -0x8000000000000000 ≤ n ∧ n < 0x8000000000000000) :
    word? n = some n :=
  if_pos h

/-- A step whose result fits hands it on, so that the steps of a computation can be run one by
one. -/
theorem word?_bind_of_fits {α : Type} {n : Int} {f : Int → Option α}
    (h : -0x8000000000000000 ≤ n ∧ n < 0x8000000000000000) : (word? n >>= f) = f n := by
  rw [word?_of_fits h]
  rfl

/-- The whole milliseconds from `b` to `a`, rounded toward zero, with every step in a word. First
the seconds between the two are rounded down, so that the nanoseconds beyond them count forward. -/
def millisInWords? (a b : Instant) : Option Int := do
  let carry : Int := if a.nanos < b.nanos then 1 else 0
  let apart ← word? (a.seconds - b.seconds)
  let seconds ← word? (apart - carry)
  let nanos ← word? (carry * 1000000000 + ((a.nanos : Int) - b.nanos))
  let back : Int := if seconds < 0 ∧ 0 < nanos then 1 else 0
  let whole ← word? (seconds + back)
  let part ← word? (nanos - back * 1000000000)
  let millis ← word? (whole * 1000)
  word? (millis + part.tdiv 1000000)

/-- The milliseconds between two instants are found without overflow: seconds of the calendar are
far from the bounds of a word, and still fit when they are counted in thousandths. -/
theorem millisInWords?_eq (ha : a.IsPlain) (hb : b.IsPlain) :
    millisInWords? a b = some (a.millisSince b) := by
  obtain ⟨hla, hga⟩ := inRange_iff.1 ha.seconds
  obtain ⟨hlb, hgb⟩ := inRange_iff.1 hb.seconds
  have hna := ha.nanos
  have hnb := hb.nanos
  rw [millisSince_eq ha hb]
  unfold millisInWords? elapsed
  dsimp only
  generalize hcarry : (if a.nanos < b.nanos then (1 : Int) else 0) = carry
  -- The nanoseconds beyond the seconds are less than a second.
  have hcarries : 0 ≤ carry ∧ carry ≤ 1 ∧ 0 ≤ carry * 1000000000 + ((a.nanos : Int) - b.nanos) ∧
      carry * 1000000000 + ((a.nanos : Int) - b.nanos) < 1000000000 := by
    split at hcarry <;> omega
  rw [word?_bind_of_fits (by omega), word?_bind_of_fits (by omega), word?_bind_of_fits (by omega)]
  generalize hnanos : carry * 1000000000 + ((a.nanos : Int) - b.nanos) = nanos at hcarries ⊢
  generalize hback : (if a.seconds - b.seconds - carry < 0 ∧ 0 < nanos then (1 : Int) else 0) = back
  have hbacks : 0 ≤ back ∧ back ≤ 1 := by split at hback <;> omega
  rw [word?_bind_of_fits (by omega), word?_bind_of_fits (by omega), word?_bind_of_fits (by omega)]
  -- The seconds and the nanoseconds have one sign, so both are rounded the same way.
  have hsum : ((a.seconds - b.seconds - carry + back) * 1000 +
      (nanos - back * 1000000000).tdiv 1000000) =
      (a.seconds * 1000000000 + a.nanos - (b.seconds * 1000000000 + b.nanos)).tdiv 1000000 := by
    split at hback
    · rw [millis_of_nonpos (by omega), millis_of_nonpos (by omega)]
      omega
    · rcases Int.lt_or_le (a.seconds - b.seconds - carry) 0 with hneg | hpos
      · rw [millis_of_nonneg (by omega), millis_of_nonpos (by omega)]
        omega
      · rw [millis_of_nonneg (by omega), millis_of_nonneg (by omega)]
        omega
  have hbound : -1000 < (nanos - back * 1000000000).tdiv 1000000 ∧
      (nanos - back * 1000000000).tdiv 1000000 < 1000 := by
    rcases Int.le_total 0 (nanos - back * 1000000000) with h | h
    · rw [millis_of_nonneg h]
      omega
    · rw [millis_of_nonpos h]
      omega
  rw [← hsum, word?_of_fits (by omega)]

end DeviceRegistry.Instant
