import DeviceRegistry.Presence
import DeviceRegistry.Proofs.Json.Decoder
import DeviceRegistry.Proofs.Time.Elapsed

/-!
# `DeviceRegistry.Proofs.Presence`: what a message announces

Whether a message announces anything, and what, is told by its members and by numbers of nanoseconds
(`IsAnnouncedIn`, `Ends`). The seconds of an announcement may be any integer of 64 bits: those that
lead out of the calendar announce nothing, and no step on the way overflows. Main statements:

* `expiry?_eq_some_iff`: when an announcement ends.
* `expiryInWords?_eq`: that this is found in words of 64 bits.
* `Ends.exists_earlier`: whoever asks earlier is told the same end, and as much time or more.
* `announced_exactly`: what is read from a message.
-/

set_option autoImplicit false

namespace DeviceRegistry

open DeviceRegistry.Json (Value)

/-! ### Members -/

section
variable {v : Value} {n : Int}

/-- An integer of 64 bits with a sign. -/
def Json.Value.IsInteger (v : Value) (n : Int) : Prop :=
  (-0x8000000000000000 ≤ n ∧ n < 0x8000000000000000) ∧ ∃ h, v = .number (.whole n h)

/-- A value is read as a 64-bit integer exactly when it is a whole number within the bounds of one.
A document may also hold whole numbers of 64 bits without a sign, which are refused from `2 ^ 63`
on. -/
theorem asInt64?_eq_some_iff : v.asInt64? = some n ↔ v.IsInteger n := by
  unfold Value.asInt64? Value.IsInteger
  split
  · rename_i k hk
    -- A whole number is never below the least integer, so only the greatest one is looked at.
    by_cases hfits : k < 0x8000000000000000
    · rw [if_pos hfits]
      constructor
      · rintro ⟨⟩
        exact ⟨⟨hk.1, hfits⟩, hk, rfl⟩
      · rintro ⟨-, h, ⟨⟩⟩
        rfl
    · rw [if_neg hfits]
      constructor
      · rintro ⟨⟩
      · rintro ⟨hn, h, ⟨⟩⟩
        exact absurd hn.2 hfits
  · rename_i hother
    constructor
    · rintro ⟨⟩
    · rintro ⟨-, h, rfl⟩
      exact absurd rfl (hother n h)

end

namespace Presence

open Instant (inRange)

variable {m : Message} {p : Presence} {created now : Instant} {seconds : Int} {e : Expiry}

/-! ### Ends -/

/-- How an announcement of some seconds that was made at `created` ends when it is asked at `now`:
not before the device says so, or at the sum of the two, one whole millisecond or more from now. -/
inductive Ends (created now : Instant) (seconds : Int) : Expiry → Prop
  | unlimited (unlimited : seconds = -1) : Ends created now seconds .unlimited
  | at (positive : 0 < seconds) (representable : inRange (created.seconds + seconds) = true)
    (remains : now.elapsed + 1000000 ≤ (created.later seconds).elapsed) :
    Ends created now seconds
      (.at (created.later seconds) (((created.later seconds).elapsed - now.elapsed) / 1000000))

/-- What an announcement leaves is never nothing: at least one whole millisecond has to be left for
it to hold, so that a device that is told about is still there. -/
theorem Ends.remaining_pos {readyUntil : Instant} {remaining : Int}
    (h : Ends created now seconds (.at readyUntil remaining)) : 0 < remaining := by
  cases h with
  | «at» positive representable remains => omega

/-- When an announcement ends. Between two plain instants the steps of the code, the bound on the
span, the sum within the calendar and the rounding to milliseconds, come down to numbers of
nanoseconds. -/
theorem expiry?_eq_some_iff (hcreated : created.IsPlain) (hnow : now.IsPlain) :
    expiry? created now seconds = some e ↔ Ends created now seconds e := by
  unfold expiry?
  by_cases hunlimited : seconds = -1
  · rw [if_pos hunlimited]
    constructor
    · rintro ⟨⟩
      exact .unlimited hunlimited
    · intro h
      cases h with
      | unlimited => rfl
      | «at» positive => omega
  rw [if_neg hunlimited]
  by_cases hpositive : seconds ≤ 0
  · rw [if_pos hpositive]
    constructor
    · rintro ⟨⟩
    · intro h
      cases h with
      | unlimited h => exact absurd h hunlimited
      | «at» positive => omega
  rw [if_neg hpositive, Option.bind_eq_bind, Option.bind_eq_some_iff]
  constructor
  · rintro ⟨readyUntil, hsum, h⟩
    obtain ⟨hrange, rfl⟩ := (Instant.addSeconds?_eq_some_iff hcreated).1 hsum
    dsimp only at h
    split at h
    · cases h
    · rename_i hremaining
      cases h
      have hlater := hcreated.later hrange
      have hremains := (Instant.millisSince_pos_iff hlater hnow).1 (Int.not_le.1 hremaining)
      rw [Instant.millisSince_eq hlater hnow, Instant.millis_of_nonneg (by omega)]
      exact .at (Int.not_le.1 hpositive) hrange hremains
  · intro h
    cases h with
    | unlimited h => exact absurd h hunlimited
    | «at» positive representable remains =>
      have hlater := hcreated.later representable
      have hremaining := (Instant.millisSince_pos_iff hlater hnow).2 remains
      refine ⟨_, (Instant.addSeconds?_eq_some_iff hcreated).2 ⟨representable, rfl⟩, ?_⟩
      dsimp only
      rw [if_neg (Int.not_le.2 hremaining), Instant.millisSince_eq hlater hnow,
        Instant.millis_of_nonneg (by omega)]

-- A nanosecond less than a whole millisecond is left.
example : expiry? ⟨8210266876789, 500000000⟩ ⟨8210266876799, 499000001⟩ 10 = none := by
  decide +kernel

/-! ### Words -/

/-- When an announcement ends, with every step in a word of 64 bits. A step that overflows is told
apart from an announcement that does not hold. -/
def expiryInWords? (created now : Instant) (seconds : Int) : Option (Option Expiry) :=
  if seconds = -1 then some (some .unlimited)
  else if seconds ≤ 0 then some none
  else if Instant.greatestSpan < seconds then some none
  else do
    let sum ← Instant.word? (created.seconds + seconds)
    if inRange sum then
      let readyUntil : Instant := { created with seconds := sum }
      let remaining ← Instant.millisInWords? readyUntil now
      return if remaining ≤ 0 then none else some (.at readyUntil remaining)
    else return none

/-- No step overflows, however many seconds are announced: a span that could is refused before the
sum is made, and the distance of two instants in milliseconds fits in a word. -/
theorem expiryInWords?_eq (hcreated : created.IsPlain) (hnow : now.IsPlain) (seconds : Int) :
    expiryInWords? created now seconds = some (expiry? created now seconds) := by
  obtain ⟨hleast, hgreatest⟩ := Instant.inRange_iff.1 hcreated.seconds
  unfold expiryInWords? expiry? Instant.addSeconds?
  simp only [hcreated.isLeap, Bool.false_eq_true, if_false]
  by_cases hunlimited : seconds = -1
  · rw [if_pos hunlimited, if_pos hunlimited]
  rw [if_neg hunlimited, if_neg hunlimited]
  by_cases hpositive : seconds ≤ 0
  · rw [if_pos hpositive, if_pos hpositive]
  rw [if_neg hpositive, if_neg hpositive]
  by_cases hlong : Instant.greatestSpan < seconds
  · rw [if_pos hlong, if_pos hlong]
    rfl
  -- A span that is not too long leaves the sum far from the end of the words.
  rw [if_neg hlong, if_neg hlong]
  rw [Instant.greatestSpan] at hlong
  rw [Instant.word?_bind_of_fits (by omega)]
  by_cases hrange : inRange (created.seconds + seconds) = true
  · rw [if_pos hrange, if_pos hrange]
    have hmillis := Instant.millisInWords?_eq (hcreated.later hrange) hnow
    rw [Instant.later] at hmillis
    rw [hmillis]
    rfl
  · rw [if_neg hrange, if_neg hrange]
    rfl

/-! ### Earlier questions -/

/-- An expiry is the same as another, but leaves at most as much time. -/
inductive LeavesAtMost : Expiry → Expiry → Prop
  | unlimited : LeavesAtMost .unlimited .unlimited
  | at {readyUntil : Instant} {less more : Int} (le : less ≤ more) :
    LeavesAtMost (.at readyUntil less) (.at readyUntil more)

/-- An announcement that holds has held before, and left as much time or more: its end does not
depend on when it is asked for, only what remains does. -/
theorem Ends.exists_earlier {earlier : Instant} (h : Ends created now seconds e)
    (hearlier : earlier.elapsed ≤ now.elapsed) :
    ∃ e', Ends created earlier seconds e' ∧ LeavesAtMost e e' := by
  cases h with
  | unlimited h => exact ⟨_, .unlimited h, .unlimited⟩
  | «at» positive representable remains =>
    exact ⟨_, .at positive representable (by omega), .at (by omega)⟩

/-! ### Messages -/

/-- What a message announces, asked at `now`. -/
structure IsAnnouncedIn (p : Presence) (m : Message) (now : Instant) : Prop where
  seconds : ∃ v, m.properties.get? "ttd" = some v ∧ v.IsInteger p.timeUntilDisconnect
  deviceId : m.properties.get? "device_id" = some (.string p.deviceId)
  tenantId : m.annotations.get? "tenant_id" = some (.string p.tenantId)
  /-- A message that does not say when it was created counts from the start of 1970. -/
  creationTime : p.creationTime = m.creationTime.getD .epoch
  ends : Ends p.creationTime now p.timeUntilDisconnect p.expiry

/-- The seconds of an announcement are the integer that the property `ttd` of the message holds. -/
theorem timeUntilDisconnect?_eq_some_iff : m.timeUntilDisconnect? = some seconds ↔
    ∃ v, m.properties.get? "ttd" = some v ∧ v.IsInteger seconds := by
  simp only [Message.timeUntilDisconnect?, Option.bind_eq_some_iff, asInt64?_eq_some_iff]

/-- The device is the text that the property `device_id` of the message holds, and nothing else will
do. -/
theorem deviceId?_eq_some_iff {s : String} :
    m.deviceId? = some s ↔ m.properties.get? "device_id" = some (.string s) := by
  simp [Message.deviceId?, Option.bind_eq_some_iff, Json.Decoder.asString?_eq_some]

/-- The tenant is the text of the annotation `tenant_id`. It is not looked for among the
properties. -/
theorem tenantId?_eq_some_iff {s : String} :
    m.tenantId? = some s ↔ m.annotations.get? "tenant_id" = some (.string s) := by
  simp [Message.tenantId?, Option.bind_eq_some_iff, Json.Decoder.asString?_eq_some]

/-- The instant that an announcement counts from is a plain one, be it of the message or the start
of 1970, so that what is known of plain instants applies. -/
theorem isPlain_creationTime (h : ∀ t ∈ m.creationTime, t.IsPlain) :
    (m.creationTime.getD .epoch).IsPlain := by
  cases hcreated : m.creationTime with
  | none => exact Instant.isPlain_epoch
  | some t => exact h t hcreated

/-- A message is read as what it announces: each of the members is what it is said to be, and the
expiry is one that ends as the seconds say. -/
theorem ofMessage?_eq_some_iff (hcreated : ∀ t ∈ m.creationTime, t.IsPlain) (hnow : now.IsPlain) :
    ofMessage? m now = some p ↔ p.IsAnnouncedIn m now := by
  have hends : ∀ seconds e, expiry? (m.creationTime.getD .epoch) now seconds = some e ↔
      Ends (m.creationTime.getD .epoch) now seconds e := fun _ _ =>
    expiry?_eq_some_iff (isPlain_creationTime hcreated) hnow
  unfold ofMessage?
  simp only [Option.bind_eq_bind, Option.bind_eq_some_iff, timeUntilDisconnect?_eq_some_iff,
    tenantId?_eq_some_iff, deviceId?_eq_some_iff, hends]
  constructor
  · rintro ⟨seconds, hseconds, tenantId, htenant, deviceId, hdevice, e, he, ⟨⟩⟩
    exact ⟨hseconds, hdevice, htenant, rfl, he⟩
  · obtain ⟨tenantId, deviceId, seconds, created, e⟩ := p
    rintro ⟨hseconds, hdevice, htenant, hcreation, he⟩
    dsimp only at hcreation he
    subst hcreation
    exact ⟨seconds, hseconds, tenantId, htenant, deviceId, hdevice, e, he, rfl⟩

/-- A message is read as what it announces, and announces nothing else. No number of seconds makes a
step overflow, and who asks earlier is told the same, with as much time left or more. -/
theorem announced_exactly (hcreated : ∀ t ∈ m.creationTime, t.IsPlain) (hnow : now.IsPlain) :
    (∀ p, ofMessage? m now = some p ↔ p.IsAnnouncedIn m now) ∧
    (∀ p readyUntil remaining, ofMessage? m now = some p → p.expiry = .at readyUntil remaining →
      0 < remaining) ∧
    (∀ seconds, expiryInWords? (m.creationTime.getD .epoch) now seconds =
      some (expiry? (m.creationTime.getD .epoch) now seconds)) ∧
    ∀ earlier : Instant, earlier.IsPlain → earlier.le now = true →
      ∀ p, ofMessage? m now = some p →
        ∃ e, ofMessage? m earlier = some { p with expiry := e } ∧ LeavesAtMost p.expiry e := by
  refine ⟨fun p => ofMessage?_eq_some_iff hcreated hnow, ?_,
    expiryInWords?_eq (isPlain_creationTime hcreated) hnow, ?_⟩
  · intro p readyUntil remaining hp hexpiry
    have hends := ((ofMessage?_eq_some_iff hcreated hnow).1 hp).ends
    rw [hexpiry] at hends
    exact hends.remaining_pos
  -- Everything but the expiry is read from the message alone, whenever it is asked.
  · intro earlier hplain hearlier p hp
    have hannounced := (ofMessage?_eq_some_iff hcreated hnow).1 hp
    obtain ⟨e, he, hleaves⟩ :=
      hannounced.ends.exists_earlier ((Instant.le_iff hplain hnow).1 hearlier)
    refine ⟨e, (ofMessage?_eq_some_iff hcreated hplain).2 ?_, hleaves⟩
    exact { hannounced with ends := he }

/-- A message that was created ten seconds before the last one that is representable. -/
def lastMessage : Message where
  creationTime := some ⟨8210266876789, 500000000⟩
  properties := [("device_id", .string "4711"), ("ttd", .number (.whole 10 (by decide)))]
  annotations := [("tenant_id", .string "T")]

/-- A message at the end of the calendar, asked one millisecond before it ends and at the very first
instant: it is still announced with one millisecond left, and was announced from the start. -/
theorem announced_exactly_lastMessage :
    ofMessage? lastMessage ⟨8210266876799, 499000000⟩ =
        some ⟨"T", "4711", 10, ⟨8210266876789, 500000000⟩, .at ⟨8210266876799, 500000000⟩ 1⟩ ∧
      ∃ e, ofMessage? lastMessage ⟨-8334601228800, 0⟩ =
        some ⟨"T", "4711", 10, ⟨8210266876789, 500000000⟩, e⟩ := by
  have hcreated : ∀ t ∈ lastMessage.creationTime, t.IsPlain := by
    rintro t ⟨⟩
    exact ⟨by decide, by decide⟩
  have hnow : Instant.IsPlain ⟨8210266876799, 499000000⟩ := ⟨by decide, by decide⟩
  have hfirst : Instant.IsPlain ⟨-8334601228800, 0⟩ := ⟨by decide, by decide⟩
  obtain ⟨hread, -, -, hearlier⟩ := announced_exactly hcreated hnow
  have hlast := (hread ⟨"T", "4711", 10, ⟨8210266876789, 500000000⟩,
    .at ⟨8210266876799, 500000000⟩ 1⟩).2 ⟨⟨_, rfl, by decide, by decide, rfl⟩, rfl, rfl, rfl,
      .at (by decide) (by decide) (by decide)⟩
  obtain ⟨e, he, -⟩ := hearlier _ hfirst (by decide) _ hlast
  exact ⟨hlast, e, he⟩

end Presence

end DeviceRegistry
