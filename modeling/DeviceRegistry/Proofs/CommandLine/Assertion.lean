import DeviceRegistry.Proofs.CommandLine.SameButFlags

/-!
# `DeviceRegistry.Proofs.CommandLine.Assertion`: one more argument that asserts a version

Among the arguments for replacing credentials, `--if-match=` with a version asserts it. The other
words are read as they would be without it, as long as none of them asserts a version too: what is
pending may be taken at once, and each step of reading either asserts a version or has nothing to do
with one (`IsNeutralStep`). Main statements:

* `isNeutralStep_readWord`: each word asserts a version, or has nothing to do with one.
* `readWords_settle`: what is pending may be taken before the next word.
* `readWords_asserting`: the words of a level, where a version was asserted.
* `read_assertion`: all words, with one that asserts a version among them.
-/

set_option autoImplicit false

namespace DeviceRegistry.CommandLine

open DeviceRegistry.Settings (Environment)

variable {env : Environment} {l : Level} {a : Argument} {p q : Progress} {text word v : String}
  {words front rest : List String} {r : Reading} {deviceId file : String} {tenant : Option String}

/-! ### A version that is asserted besides -/

/-- What is given, and a version. -/
def Given.asserting (v : String) (g : Given) : Given := { g with ifMatch := some v }

/-- A level, and the same level at which a version was asserted besides. When it was does not
matter. -/
structure Progress.Asserting (v : String) (p p' : Progress) : Prop where
  given : p'.given = p.given.asserting v
  taken : ∀ name, name ∈ p'.taken ↔ name = ifMatchArgument.name ∨ name ∈ p.taken
  pending : p'.pending = p.pending
  awaits : p'.awaits = p.awaits
  literal : p'.literal = p.literal
  positions : p'.positions = p.positions

/-- The command with a version, which only replacing credentials can assert. -/
def Command.asserting (v : String) : Command → Command
  | .setCredentials deviceId file _ tenant => .setCredentials deviceId file (some v) tenant
  | c => c

/-- A reading, and a version. -/
def Reading.asserting (v : String) (r : Reading) : Reading :=
  { r with words := r.words.asserting v, command := r.command.asserting v }

/-! ### Arguments -/

/-- Taking an argument asserts a version, or has nothing to do with one. -/
def Argument.IsNeutral (a : Argument) : Prop :=
  ∀ set, a.CanSet set → ∀ g : Given, (set g).ifMatch = none →
    a.name ≠ ifMatchArgument.name ∧ g.ifMatch = none ∧
      ∀ v, set (g.asserting v) = (set g).asserting v

/-- Setting an argument other than the version leaves the version alone, and does the same with a
version in place. The cases are the arguments that there are. -/
theorem Sets.asserting {name : String} {set : Given → Given} (h : Sets name set) {g : Given}
    (hnone : (set g).ifMatch = none) :
    name ≠ ifMatchArgument.name ∧ g.ifMatch = none ∧
      ∀ v, set (g.asserting v) = (set g).asserting v := by
  cases h with
  | ifMatch s => cases hnone
  | _ => exact ⟨by decide, hnone, fun _ => rfl⟩

/-- So every argument of a level is neutral: what it sets is one of the cases of `Sets`. -/
theorem Level.isNeutral_of_mem_arguments (ha : a ∈ l.arguments) : a.IsNeutral :=
  fun _ hset _ hnone => (sets_of_mem_arguments ha hset).asserting hnone

/-- And so is every word that stands for itself, which is a file or the identifier of a device. -/
theorem Level.isNeutral_of_mem_positions (ha : a ∈ l.positions) : a.IsNeutral :=
  fun _ hset _ hnone => (sets_of_mem_positions ha hset).asserting hnone

namespace Progress

/-- All arguments that are still to be taken are neutral, and the one that asserts a version has
only been taken with a version. -/
structure IsNeutral (p : Progress) : Prop where
  pending : ∀ a text, p.pending = some (a, text) → a.IsNeutral
  positions : ∀ a ∈ p.positions, a.IsNeutral
  taken : ifMatchArgument.name ∈ p.taken → p.given.ifMatch ≠ none

/-- At the start of a level nothing has been taken, so the invariant of reading holds there. -/
theorem isNeutral_start (l : Level) : (start l).IsNeutral where
  pending := nofun
  positions _ ha := Level.isNeutral_of_mem_positions ha
  taken := nofun

/-! ### Steps -/

/-- A step from one level to another asserts a version, or has nothing to do with one: it goes the
same way where a version was asserted besides. -/
def IsNeutralAt (step : Progress → Except Stop Progress) (p q : Progress) : Prop :=
  q.IsNeutral ∧ (q.given.ifMatch = none → p.given.ifMatch = none ∧
    ∀ v p', p.Asserting v p' → ∃ q', step p' = .ok q' ∧ q.Asserting v q')

/-- So it is wherever the step is taken. -/
def IsNeutralStep (step : Progress → Except Stop Progress) : Prop :=
  ∀ p q, p.IsNeutral → step p = .ok q → IsNeutralAt step p q

namespace IsNeutralStep

variable {step step' : Progress → Except Stop Progress}

/-- Two neutral steps in a row are one. A version that was not asserted in the end was not asserted
in between, so both steps go the same way with a version in place. -/
theorem bind (h : IsNeutralStep step) (h' : IsNeutralStep step') :
    IsNeutralStep fun p => step p >>= step' := by
  intro p q hp hq
  obtain ⟨s, hs, hq⟩ := except_bind_eq_ok.1 hq
  obtain ⟨hsneutral, hstep⟩ := h p s hp hs
  obtain ⟨hqneutral, hstep'⟩ := h' s q hsneutral hq
  refine ⟨hqneutral, fun hnone => ?_⟩
  obtain ⟨hsnone, hlater⟩ := hstep' hnone
  obtain ⟨hpnone, hbefore⟩ := hstep hsnone
  refine ⟨hpnone, fun v p' hp' => ?_⟩
  obtain ⟨s', hs', hasserting⟩ := hbefore v p' hp'
  obtain ⟨q', hq', hasserting'⟩ := hlater v s' hasserting
  exact ⟨q', except_bind_eq_ok.2 ⟨s', hs', hq'⟩, hasserting'⟩

/-- A step that always fails has no level to say anything of. -/
theorem error (why : Stop) : IsNeutralStep fun _ => .error why := fun _ _ _ hq => by cases hq

/-- A step that gives nothing, and puts aside what is neutral, as when an argument starts to wait
for its value. -/
theorem aside {f : Progress → Progress} (hneutral : ∀ p, p.IsNeutral → (f p).IsNeutral)
    (hgiven : ∀ p, (f p).given = p.given)
    (hasserting : ∀ v p p', p.Asserting v p' → (f p).Asserting v (f p')) :
    IsNeutralStep fun p => .ok (f p) := by
  rintro p q hp hq
  cases hq
  exact ⟨hneutral p hp, fun hnone =>
    ⟨hgiven p ▸ hnone, fun v p' hp' => ⟨f p', rfl, hasserting v p p' hp'⟩⟩⟩

/-- Giving what a neutral argument gives is a neutral step: the argument does not assert a version
itself, and the version in place is carried through by the third part of `Argument.IsNeutral`. All
steps that take an argument end in this one. -/
theorem put {set : Given → Given} (ha : a.IsNeutral) (hset : a.CanSet set) :
    IsNeutralStep fun p => .ok (p.put a set) := by
  rintro p q hp hq
  cases hq
  refine ⟨⟨hp.pending, hp.positions, fun htaken hnone => ?_⟩, fun hnone => ?_⟩
  · obtain ⟨hname, hpnone, -⟩ := ha set hset p.given hnone
    rcases List.mem_cons.1 htaken with heq | htaken
    · exact hname heq.symm
    · exact hp.taken htaken hpnone
  obtain ⟨-, hpnone, hcommutes⟩ := ha set hset p.given hnone
  refine ⟨hpnone, fun v p' hp' => ⟨_, rfl, ?_⟩⟩
  have hgiven : set p'.given = (set p.given).asserting v := hp'.given ▸ hcommutes v
  have htaken (name : String) : name ∈ a.name :: p'.taken ↔
      name = ifMatchArgument.name ∨ name ∈ a.name :: p.taken := by
    rw [List.mem_cons, List.mem_cons, hp'.taken name, or_left_comm]
  exact ⟨hgiven, htaken, hp'.pending, hp'.awaits, hp'.literal, hp'.positions⟩

/-- An argument that may be taken once. Another version does not count as this argument, as the step
would have been refused if it asserted a version already. -/
theorem putOnce {set : Given → Given} (ha : a.IsNeutral) (hset : a.CanSet set) :
    IsNeutralStep fun p =>
      if p.taken.contains a.name then .error .repeated else .ok (p.put a set) := by
  intro p q hp hq
  dsimp only at hq
  split at hq
  · cases hq
  · rename_i hnot
    obtain ⟨hqneutral, hput⟩ := put ha hset p q hp hq
    refine ⟨hqneutral, fun hnone => ⟨(hput hnone).1, fun v p' hp' => ?_⟩⟩
    obtain ⟨q', hq', hasserting⟩ := (hput hnone).2 v p' hp'
    cases hq
    obtain ⟨hname, -, -⟩ := ha set hset p.given hnone
    have hnot' : ¬ p'.taken.contains a.name = true := by
      rw [List.contains_iff_mem] at hnot ⊢
      rw [hp'.taken]
      exact not_or.2 ⟨hname, hnot⟩
    exact ⟨q', (if_neg hnot').trans hq', hasserting⟩

end IsNeutralStep

/-- Taking a value for a neutral argument gives what the value is read as, or fails whether there is
a version or not. -/
theorem isNeutralStep_takeValue (ha : a.IsNeutral) (text : String) :
    IsNeutralStep fun p => p.takeValue a text := by
  unfold takeValue
  cases hrole : a.role with
  | value take =>
    cases htake : take text with
    | error why =>
      intro p q hp hq
      dsimp only at hq
      rw [htake] at hq
      split at hq <;> cases hq
    | ok set =>
      dsimp only
      rw [htake]
      exact .putOnce ha (.value hrole htake)
  | switch set | counter add | stop why => exact .error _

/-- Taking what is pending is taking a value, and nothing where nothing is pending. Every step of
reading starts with it, so it is the first part of each of the steps below. -/
theorem isNeutralStep_settle : IsNeutralStep settle := by
  intro p q hp hq
  rcases settle_eq_ok hq with ⟨hpending, rfl⟩ | ⟨a, text, hpending, htake⟩
  · refine ⟨hp, fun hnone => ⟨hnone, fun v p' hp' => ⟨p', ?_, hp'⟩⟩⟩
    unfold settle
    rw [hp'.pending, hpending]
  · have ha := hp.pending a _ hpending
    have hidle : ({ p with pending := none, awaits := false } : Progress).IsNeutral :=
      ⟨nofun, hp.positions, hp.taken⟩
    obtain ⟨hqneutral, htaken⟩ := isNeutralStep_takeValue ha text _ q hidle htake
    refine ⟨hqneutral, fun hnone => ⟨(htaken hnone).1, fun v p' hp' => ?_⟩⟩
    unfold settle
    rw [hp'.pending, hpending]
    exact (htaken hnone).2 v _ ⟨hp'.given, hp'.taken, rfl, rfl, hp'.literal, hp'.positions⟩

/-- An argument named by a word is put aside until its value comes, or taken at once, after what was
pending before it. -/
theorem isNeutralStep_takeMark (ha : a.IsNeutral) : IsNeutralStep fun p => p.takeMark a := by
  refine isNeutralStep_settle.bind ?_
  cases hrole : a.role with
  | value take =>
    exact .aside (fun p hp => ⟨fun b text h => by cases h; exact ha, hp.positions, hp.taken⟩)
      (fun _ => rfl) fun _ _ _ h => ⟨h.given, h.taken, rfl, rfl, h.literal, h.positions⟩
  | switch set => exact .putOnce ha (.switch hrole)
  | counter add => exact .put ha (.counter hrole)
  | stop why => exact .error why

/-- An argument with its value in the same word is taken after what was pending; only arguments with
values may have one. -/
theorem isNeutralStep_takeAttached (ha : a.IsNeutral) (text : String) :
    IsNeutralStep fun p => p.takeAttached a text := by
  unfold takeAttached
  cases a.role with
  | value take => exact isNeutralStep_settle.bind (isNeutralStep_takeValue ha text)
  | switch set | counter add | stop why => exact .error _

/-! ### Words -/

/-- A name behind two dashes is no name of an argument, or takes one in one of two ways, and both of
them are neutral. -/
theorem isNeutralStep_readName (l : Level) (name : List Char) :
    IsNeutralStep fun p => p.readName l name := by
  rcases readName_cases l name with ⟨why, hwhy⟩ | ⟨a, ha, hmark | ⟨text, hattached⟩⟩
  · simp only [hwhy]
    exact .error why
  · simp only [hmark]
    exact isNeutralStep_takeMark (Level.isNeutral_of_mem_arguments ha)
  · simp only [hattached]
    exact isNeutralStep_takeAttached (Level.isNeutral_of_mem_arguments ha) text

/-- Letters behind one dash are neutral one after the other. The induction is on the letters, as
each of them may leave the rest to be read on. -/
theorem isNeutralStep_readLetters (l : Level) (letters : List Char) :
    IsNeutralStep fun p => p.readLetters l letters := by
  induction letters with
  | nil => exact .aside (fun _ hp => hp) (fun _ => rfl) fun _ _ _ h => h
  | cons x letters ih =>
    rcases readLetters_cases l x letters with
      ⟨why, hwhy⟩ | ⟨a, ha, hmark | ⟨text, hattached⟩ | hmark⟩
    · simp only [hwhy]
      exact .error why
    · simp only [hmark]
      exact isNeutralStep_takeMark (Level.isNeutral_of_mem_arguments ha)
    · simp only [hattached]
      exact isNeutralStep_takeAttached (Level.isNeutral_of_mem_arguments ha) text
    · simp only [hmark]
      exact (isNeutralStep_takeMark (Level.isNeutral_of_mem_arguments ha)).bind ih

/-- A step is neutral where it is like one that is. What the two agree on are the parts of a level
that a version does not touch. -/
theorem IsNeutralStep.of_agree {step step' : Progress → Except Stop Progress}
    (h : IsNeutralStep step') (hp : p.IsNeutral) (hq : step p = .ok q)
    (hagree : ∀ p' : Progress, p'.pending = p.pending → p'.awaits = p.awaits →
      p'.literal = p.literal → p'.positions = p.positions → step p' = step' p') :
    IsNeutralAt step p q := by
  obtain ⟨hqneutral, hstep⟩ := h p q hp (hagree p rfl rfl rfl rfl ▸ hq)
  refine ⟨hqneutral, fun hnone => ⟨(hstep hnone).1, fun v p' hp' => ?_⟩⟩
  rw [hagree p' hp'.pending hp'.awaits hp'.literal hp'.positions]
  exact (hstep hnone).2 v p' hp'

/-- A word that stands for itself is put aside for the next of the arguments without a name, or
there is none left and it is refused. -/
theorem isNeutralStep_readPosition (l : Level) (word : String) :
    IsNeutralStep fun p => p.readPosition l word := by
  intro p q hp hq
  cases hpositions : p.positions with
  | nil =>
    dsimp only [readPosition] at hq
    rw [hpositions] at hq
    dsimp only at hq
    split at hq <;> cases hq
  | cons a positions =>
    have hrest : ∀ b ∈ a :: positions, b.IsNeutral := hpositions ▸ hp.positions
    -- What waits is settled first, and then the word waits for its position in turn.
    have hstep : IsNeutralStep fun p => p.settle >>= fun s =>
        .ok { s with pending := some (a, some word), positions := positions } := by
      refine isNeutralStep_settle.bind (.aside ?_ (fun _ => rfl) fun _ _ _ h =>
        ⟨h.given, h.taken, rfl, h.awaits, h.literal, rfl⟩)
      exact fun s hs => ⟨fun b text h => by cases h; exact hrest a List.mem_cons_self,
        fun b hb => hrest b (List.mem_cons_of_mem _ hb), hs.taken⟩
    refine hstep.of_agree hp hq fun p' _ _ _ hpositions' => ?_
    dsimp only [readPosition]
    rw [hpositions', hpositions]
    rfl

/-- Each word asserts a version, or has nothing to do with one: it is two dashes, a name, letters, a
value that was waited for, or something that stands for itself. -/
theorem isNeutralStep_readWord (l : Level) (word : String) :
    IsNeutralStep fun p => p.readWord l word := by
  intro p q hp hq
  have hposition := isNeutralStep_readPosition l word
  -- The four kinds of words are read by steps that are known to be neutral. Which kind it is
  -- depends on the word and on what both runs have in common.
  cases hliteral : p.literal with
  | true =>
    exact hposition.of_agree hp hq fun p' _ _ hliteral' _ =>
      readWord_literally (hliteral'.trans hliteral)
  | false =>
    rcases readWord_cases l word with hdashes | ⟨name, hname⟩ | ⟨x, letters, hletters⟩ | hother
    · have hstep : IsNeutralStep fun p => .ok { p with literal := true } :=
        .aside (fun _ hp => ⟨hp.pending, hp.positions, hp.taken⟩) (fun _ => rfl)
          fun _ _ _ h => ⟨h.given, h.taken, h.pending, h.awaits, rfl, h.positions⟩
      exact hstep.of_agree hp hq fun p' _ _ hliteral' _ => hdashes p' (hliteral'.trans hliteral)
    · exact (isNeutralStep_readName l name).of_agree hp hq fun p' _ _ hliteral' _ =>
        hname p' (hliteral'.trans hliteral)
    · exact (isNeutralStep_readLetters l (x :: letters)).of_agree hp hq fun p' _ _ hliteral' _ =>
        hletters p' (hliteral'.trans hliteral)
    · cases hawaits : p.awaits with
      | false =>
        refine hposition.of_agree hp hq fun p' _ hawaits' hliteral' _ => ?_
        rw [hother p' (hliteral'.trans hliteral), hawaits', hawaits]
      | true =>
        cases hpending : p.pending with
        | none =>
          refine hposition.of_agree hp hq fun p' hpending' hawaits' hliteral' _ => ?_
          rw [hother p' (hliteral'.trans hliteral), hawaits', hawaits, hpending', hpending]
        | some waiting =>
          obtain ⟨a, text⟩ := waiting
          have ha := hp.pending a text hpending
          have hstep : IsNeutralStep fun p =>
              .ok { p with pending := some (a, some word), awaits := false } :=
            .aside (fun _ hp => ⟨fun b text h => by cases h; exact ha, hp.positions, hp.taken⟩)
              (fun _ => rfl) fun _ _ _ h => ⟨h.given, h.taken, rfl, rfl, h.literal, h.positions⟩
          refine hstep.of_agree hp hq fun p' hpending' hawaits' hliteral' _ => ?_
          rw [hother p' (hliteral'.trans hliteral), hawaits', hawaits, hpending', hpending]

/-! ### What is pending -/

/-- Once what is pending has been taken, taking it again changes nothing. -/
theorem settle_of_settle {s : Progress} (hs : p.settle = .ok s) : s.settle = .ok s := by
  unfold settle
  rw [(settle_keeps hs).1]

/-- A level that waits for no value does not start to do so by taking what is pending. -/
theorem awaits_of_settle {s : Progress} (hawaits : p.awaits = false) (hs : p.settle = .ok s) :
    s.awaits = false := by
  rcases settle_eq_ok hs with ⟨-, rfl⟩ | ⟨a, text, -, htake⟩
  · exact hawaits
  · obtain ⟨-, -, -, -, rfl⟩ := takeValue_eq_ok htake
    rfl

/-- A step takes first what is pending. -/
def SettlesFirst (step : Progress → Except Stop Progress) : Prop :=
  ∀ p q, step p = .ok q → ∃ s, p.settle = .ok s ∧ step s = .ok q

/-- A step that always fails takes first what is pending, as it never gets to a level. -/
theorem settlesFirst_error (why : Stop) : SettlesFirst fun _ => .error why :=
  fun _ _ hq => by cases hq

/-- What begins by taking what is pending does so whether that has been done before or not. The
steps that take arguments are all of this form. -/
theorem settlesFirst_settle_bind (step : Progress → Except Stop Progress) :
    SettlesFirst fun p => p.settle >>= step := by
  intro p q hq
  obtain ⟨s, hs, hq⟩ := except_bind_eq_ok.1 hq
  exact ⟨s, hs, except_bind_eq_ok.2 ⟨s, settle_of_settle hs, hq⟩⟩

/-- When the first of two steps takes first what is pending, so do both together. -/
theorem SettlesFirst.bind {step step' : Progress → Except Stop Progress} (h : SettlesFirst step) :
    SettlesFirst fun p => step p >>= step' := by
  intro p q hq
  obtain ⟨q', hq', hq⟩ := except_bind_eq_ok.1 hq
  obtain ⟨s, hs, hstep⟩ := h p q' hq'
  exact ⟨s, hs, except_bind_eq_ok.2 ⟨q', hstep, hq⟩⟩

/-- Naming an argument takes first what is pending, by the way it is defined. -/
theorem settlesFirst_takeMark (a : Argument) : SettlesFirst fun p => p.takeMark a :=
  settlesFirst_settle_bind _

/-- So does an argument with its value in the same word; where no value may stand, there is only the
failure. -/
theorem settlesFirst_takeAttached (a : Argument) (text : String) :
    SettlesFirst fun p => p.takeAttached a text := by
  unfold takeAttached
  cases a.role with
  | value take => exact settlesFirst_settle_bind _
  | switch set | counter add | stop why => exact settlesFirst_error _

/-- So does a name, which is one of these two or a failure. -/
theorem settlesFirst_readName (l : Level) (name : List Char) :
    SettlesFirst fun p => p.readName l name := by
  rcases readName_cases l name with ⟨why, hwhy⟩ | ⟨a, -, hmark | ⟨text, hattached⟩⟩
  · simp only [hwhy]
    exact settlesFirst_error why
  · simp only [hmark]
    exact settlesFirst_takeMark a
  · simp only [hattached]
    exact settlesFirst_takeAttached a text

/-- So do letters, of which only the first matters here: behind it nothing is pending any more. -/
theorem settlesFirst_readLetters (l : Level) (x : Char) (letters : List Char) :
    SettlesFirst fun p => p.readLetters l (x :: letters) := by
  rcases readLetters_cases l x letters with
    ⟨why, hwhy⟩ | ⟨a, -, hmark | ⟨text, hattached⟩ | hmark⟩
  · simp only [hwhy]
    exact settlesFirst_error why
  · simp only [hmark]
    exact settlesFirst_takeMark a
  · simp only [hattached]
    exact settlesFirst_takeAttached a text
  · simp only [hmark]
    exact (settlesFirst_takeMark a).bind

/-- So does a word that stands for itself, since what it is put aside for is pending only
afterwards. With names and letters it makes up the kinds of words in `readWord_settle`. -/
theorem settlesFirst_readPosition (l : Level) (word : String) :
    SettlesFirst fun p => p.readPosition l word := by
  intro p q hq
  dsimp only [readPosition] at hq ⊢
  cases hpositions : p.positions with
  | nil =>
    rw [hpositions] at hq
    dsimp only at hq
    split at hq <;> cases hq
  | cons a positions =>
    rw [hpositions] at hq
    obtain ⟨s, hs, hq⟩ := except_bind_eq_ok.1 hq
    refine ⟨s, hs, ?_⟩
    rw [(settle_keeps hs).2.2, hpositions]
    exact except_bind_eq_ok.2 ⟨s, settle_of_settle hs, hq⟩

/-- A word is read behind what is pending, but two dashes may stand before it is taken: they take
nothing, and only change how the words behind them are read. -/
theorem readWord_settle (hawaits : p.awaits = false) (hq : p.readWord l word = .ok q) :
    (∃ s, p.settle = .ok s ∧ s.readWord l word = .ok q) ∨ q = { p with literal := true } ∧
      ∀ s : Progress, s.literal = p.literal →
        s.readWord l word = .ok { s with literal := true } := by
  -- Each kind of word but two dashes settles what waits before it does anything else.
  have hfirst {step : Progress → Except Stop Progress} (hsettles : SettlesFirst step)
      (hstep : ∀ s : Progress, s.literal = p.literal → s.awaits = p.awaits →
        s.readWord l word = step s) :
      ∃ s, p.settle = .ok s ∧ s.readWord l word = .ok q := by
    obtain ⟨s, hs, hread⟩ := hsettles p q (hstep p rfl rfl ▸ hq)
    refine ⟨s, hs, (hstep s (settle_keeps hs).2.1 ?_).trans hread⟩
    rw [awaits_of_settle hawaits hs, hawaits]
  cases hliteral : p.literal with
  | true =>
    exact .inl (hfirst (settlesFirst_readPosition l word) fun s hs _ =>
      readWord_literally (hs.trans hliteral))
  | false =>
    rcases readWord_cases l word with hdashes | ⟨name, hname⟩ | ⟨x, letters, hletters⟩ | hother
    · rw [hdashes p hliteral] at hq
      cases hq
      exact .inr ⟨rfl, hdashes⟩
    · exact .inl (hfirst (settlesFirst_readName l name) fun s hs _ => hname s (hs.trans hliteral))
    · exact .inl (hfirst (settlesFirst_readLetters l x letters) fun s hs _ =>
        hletters s (hs.trans hliteral))
    · refine .inl (hfirst (settlesFirst_readPosition l word) fun s hs hsawaits => ?_)
      rw [hother s (hs.trans hliteral), hsawaits, hawaits]

/-! ### Closing a level -/

/-- No variable gives a version, so which variables are taken does not change when a version counts
as taken. The induction is on the arguments that a variable can give. -/
theorem takeVariables_asserting {as : List Argument} {taken taken' : List String}
    (has : ∀ a ∈ as, a.name = ifMatchArgument.name → a.envName = none)
    (htaken : ∀ name, name ∈ taken' ↔ name = ifMatchArgument.name ∨ name ∈ taken) :
    takeVariables env taken' as p = takeVariables env taken as p := by
  induction as generalizing p with
  | nil => rfl
  | cons a as ih =>
    have ih (p : Progress) := ih (p := p) fun b hb => has b (List.mem_cons_of_mem a hb)
    have hiff := htaken a.name
    unfold takeVariables at ih ⊢
    by_cases hin : a.name ∈ taken
    · rw [List.filter_cons_of_neg (by simp [hin, hiff]), List.filter_cons_of_neg (by simp [hin]),
        ih]
    · have hput : ((a :: as).filter fun a => !taken.contains a.name).foldlM (takeVariable env) p =
          takeVariable env p a >>= fun q =>
            (as.filter fun a => !taken.contains a.name).foldlM (takeVariable env) q := by
        rw [List.filter_cons_of_pos (by simp [hin]), List.foldlM_cons]
      rw [hput]
      by_cases hname : a.name = ifMatchArgument.name
      -- The argument has no variable, so that leaving it out makes no difference.
      · have hnone : takeVariable env p a = .ok p := by
          unfold takeVariable
          rw [has a List.mem_cons_self hname]
          rfl
        have hin' : a.name ∈ taken' := hiff.2 (.inl hname)
        rw [List.filter_cons_of_neg (by simpa using hin'), hnone, except_bind_ok, ih]
      · rw [List.filter_cons_of_pos (by simp [hiff, hname, hin]), List.foldlM_cons]
        exact congrArg _ (funext ih)

/-- For the level that replaces credentials this holds of each of its arguments, as only the version
is asked for by that name. -/
theorem readVariables_asserting {p' : Progress} (h : p.Asserting v p') :
    readVariables env .setCredentials p'.taken = readVariables env .setCredentials p.taken :=
  takeVariables_asserting (by decide) h.taken

end Progress

/-- What is pending may be taken before the next word. Reading of words goes through levels, so the
induction is on the words. -/
theorem readWords_settle (hawaits : p.awaits = false) (hr : readWords env l p words = .ok r) :
    ∃ s, p.settle = .ok s ∧ readWords env l s words = .ok r := by
  induction words generalizing p with
  | nil =>
    obtain ⟨s, hs, hclose⟩ := except_bind_eq_ok.1 hr
    exact ⟨s, hs, except_bind_eq_ok.2 ⟨s, Progress.settle_of_settle hs, hclose⟩⟩
  | cons word words ih =>
    -- What is pending does not matter for whether a word names a command.
    have hsame {s : Progress} (hs : p.settle = .ok s) :
        (!s.literal && !s.awaits && l.isCommand word) =
          (!p.literal && !p.awaits && l.isCommand word) := by
      rw [(Progress.settle_keeps hs).2.1, Progress.awaits_of_settle hawaits hs, hawaits]
    unfold readWords at hr ⊢
    split at hr
    · rename_i hbelow
      cases hlookup : l.commands.lookup word with
      | none =>
        rw [hlookup] at hr
        cases hr
      | some below =>
        rw [hlookup] at hr
        obtain ⟨r', hr', hclose⟩ := except_bind_eq_ok.1 hr
        obtain ⟨s, hs, hclose⟩ := except_bind_eq_ok.1 hclose
        refine ⟨s, hs, ?_⟩
        rw [hsame hs, if_pos hbelow]
        exact except_bind_eq_ok.2 ⟨r', hr',
          except_bind_eq_ok.2 ⟨s, Progress.settle_of_settle hs, hclose⟩⟩
    · rename_i hbelow
      obtain ⟨q, hq, hr⟩ := except_bind_eq_ok.1 hr
      rcases Progress.readWord_settle hawaits hq with ⟨s, hs, hread⟩ | ⟨rfl, hdashes⟩
      · refine ⟨s, hs, ?_⟩
        rw [hsame hs, if_neg hbelow]
        exact except_bind_eq_ok.2 ⟨q, hread, hr⟩
      · obtain ⟨s', hs', hr⟩ := ih (p := { p with literal := true }) hawaits hr
        obtain ⟨s, hs, rfl⟩ := except_map_eq_ok.1 (Progress.Matches.settle_literal p ▸ hs')
        refine ⟨s, hs, ?_⟩
        rw [hsame hs, if_neg hbelow]
        exact except_bind_eq_ok.2 ⟨_, hdashes s (Progress.settle_keeps hs).2.1, hr⟩

/-- Behind the last word, the level is closed as it would be without the version, and the version
becomes that of the command. A version from elsewhere is ruled out by the command that has none. -/
theorem closeLast_asserting (hp : p.IsNeutral)
    (hr : closeLast env .setCredentials p = .ok r)
    (hcommand : r.command = .setCredentials deviceId file none tenant) :
    p.given.ifMatch = none ∧ ∀ v p', p.Asserting v p' →
      closeLast env .setCredentials p' = .ok (r.asserting v) := by
  obtain ⟨q, vs, hq, hvs, hall, hwords, henvironment⟩ := closeLast_eq_ok hr
  obtain ⟨d, hd, hmade⟩ := Option.bind_eq_some_iff.1 hall
  obtain ⟨f, hf, hmade⟩ := Option.map_eq_some_iff.1 hmade
  -- A version of the command would come from the words.
  have hnone : q.given.ifMatch = none := by
    have hor : q.given.ifMatch.or vs.given.ifMatch = none :=
      (Command.setCredentials.inj (hmade.trans hcommand)).2.2.1
    exact (Option.or_eq_none_iff.1 hor).1
  obtain ⟨hpnone, hsettle⟩ := (Progress.isNeutralStep_settle p q hp hq).2 hnone
  refine ⟨hpnone, fun v p' hp' => ?_⟩
  obtain ⟨q', hq', hasserting⟩ := hsettle v p' hp'
  have hall' : Level.setCredentials.command? (q'.given.laidOver vs.given) =
      some (r.command.asserting v) := by
    rw [hasserting.given, ← hmade]
    exact Option.bind_eq_some_iff.2 ⟨d, hd, Option.map_eq_some_iff.2 ⟨f, hf, rfl⟩⟩
  unfold closeLast
  rw [hq', except_bind_ok, Progress.readVariables_asserting hasserting, hvs, except_bind_ok, hall',
    hasserting.given]
  unfold Reading.asserting
  rw [hwords, henvironment]
  rfl

/-- The words of a level are read as they would be without the version. Each word is a neutral step,
and closing the level is `closeLast_asserting`. -/
theorem readWords_asserting (hp : p.IsNeutral)
    (hr : readWords env .setCredentials p words = .ok r)
    (hcommand : r.command = .setCredentials deviceId file none tenant) :
    p.given.ifMatch = none ∧ ∀ v p', p.Asserting v p' →
      readWords env .setCredentials p' words = .ok (r.asserting v) := by
  induction words generalizing p with
  | nil => exact closeLast_asserting hp hr hcommand
  | cons word words ih =>
    rw [readWords_word (.inr rfl)] at hr
    obtain ⟨q, hq, hr⟩ := except_bind_eq_ok.1 hr
    obtain ⟨hqneutral, hstep⟩ := Progress.isNeutralStep_readWord .setCredentials word p q hp hq
    obtain ⟨hqnone, hlater⟩ := ih hqneutral hr
    obtain ⟨hpnone, hword⟩ := hstep hqnone
    refine ⟨hpnone, fun v p' hp' => ?_⟩
    obtain ⟨q', hq', hasserting⟩ := hword v p' hp'
    rw [readWords_word (.inr rfl)]
    exact except_bind_eq_ok.2 ⟨q', hq', hlater v q' hasserting⟩

/-! ### All words -/

/-- The word that asserts a version. -/
def assertion (v : String) : String := "--if-match=" ++ v

/-- The word that asserts a version takes what is pending, and then the version; it has not been
taken before, as the level was neutral without one. -/
theorem readWord_assertion {s : Progress} (hliteral : p.literal = false) (hs : p.settle = .ok s)
    (hp : s.IsNeutral) (hnone : s.given.ifMatch = none) (v : String) :
    ∃ q, p.readWord .setCredentials (assertion v) = .ok q ∧ s.Asserting v q := by
  have hlist : (assertion v).toList = '-' :: '-' :: ("if-match".toList ++ '=' :: v.toList) := by
    rw [assertion, String.toList_append]
    rfl
  have hnot : ¬ s.taken.contains ifMatchArgument.name = true := by
    rw [List.contains_iff_mem]
    exact fun htaken => hp.taken htaken hnone
  refine ⟨s.put ifMatchArgument (Given.asserting v), ?_, rfl, fun name => List.mem_cons,
    rfl, rfl, rfl, rfl⟩
  rw [Progress.readWord_name hliteral (List.append_ne_nil_of_left_ne_nil (by decide) _) hlist,
    Progress.readName_attached (a := ifMatchArgument) (by decide) rfl]
  exact except_bind_eq_ok.2 ⟨s, hs, if_neg hnot⟩

/-- Whether an argument for replacing credentials may stand behind some words. They name the
command, the last of them does not wait for its value, and arguments have not ended. -/
def canAssert (l : Level) (p : Progress) : List String → Bool
  | [] => l = .setCredentials && !p.literal && !p.awaits
  | word :: words =>
    if !p.literal && !p.awaits && l.isCommand word then
      match l.commands.lookup word with
      | some below => canAssert below (.start below) words
      | none => false
    else match p.readWord l word with
      | .ok q => canAssert l q words
      | .error _ => false

/-- Words with one in between that asserts a version are read as the words without it, but for the
version. In front of that word nothing changes, behind it `readWords_asserting` goes on. -/
theorem readWords_assertion (hfront : canAssert l p front = true) (hp : p.IsNeutral)
    (hr : readWords env l p (front ++ rest) = .ok r)
    (hcommand : r.command = .setCredentials deviceId file none tenant) (v : String) :
    readWords env l p (front ++ assertion v :: rest) = .ok (r.asserting v) := by
  -- Along the words in front, which are read as before.
  induction front generalizing l p r with
  | nil =>
    simp only [canAssert, Bool.and_eq_true, decide_eq_true_eq, Bool.not_eq_true'] at hfront
    obtain ⟨⟨rfl, hliteral⟩, hawaits⟩ := hfront
    rw [List.nil_append] at hr ⊢
    obtain ⟨s, hs, hr⟩ := readWords_settle hawaits hr
    have hsneutral := (Progress.isNeutralStep_settle p s hp hs).1
    obtain ⟨hnone, hlater⟩ := readWords_asserting hsneutral hr hcommand
    obtain ⟨q, hq, hasserting⟩ := readWord_assertion hliteral hs hsneutral hnone v
    rw [readWords_word (.inr rfl), hq, except_bind_ok]
    exact hlater v q hasserting
  | cons word front ih =>
    unfold canAssert at hfront
    rw [List.cons_append] at hr ⊢
    unfold readWords at hr ⊢
    split at hfront
    · rename_i hbelow
      rw [if_pos hbelow] at hr ⊢
      cases hlookup : l.commands.lookup word with
      | none =>
        rw [hlookup] at hfront
        cases hfront
      | some below =>
        rw [hlookup] at hfront hr
        dsimp only at hfront hr ⊢
        obtain ⟨r', hr', hclose⟩ := except_bind_eq_ok.1 hr
        obtain ⟨q, hq, hclose⟩ := except_bind_eq_ok.1 hclose
        obtain ⟨vs, hvs, hclose⟩ := except_bind_eq_ok.1 hclose
        cases hclose
        rw [ih hfront (Progress.isNeutral_start below) hr' hcommand, except_bind_ok, closeAbove, hq,
          except_bind_ok, hvs]
        rfl
    · rename_i hbelow
      rw [if_neg hbelow] at hr ⊢
      obtain ⟨q, hq, hr⟩ := except_bind_eq_ok.1 hr
      rw [hq] at hfront
      rw [hq, except_bind_ok]
      exact ih hfront (Progress.isNeutralStep_readWord l word p q hp hq).1 hr hcommand

/-- A version that is asserted among the arguments for replacing credentials is asserted by the
command, and nothing else changes: neither the options nor what the command is for. -/
theorem read_assertion {o : Options} (hfront : canAssert .root (.start .root) front = true)
    (h : Invocation.read env (front ++ rest) = .ok ⟨o, .setCredentials deviceId file none tenant⟩)
    (v : String) :
    Invocation.read env (front ++ assertion v :: rest) =
      .ok ⟨o, .setCredentials deviceId file (some v) tenant⟩ := by
  obtain ⟨r, hr, hi⟩ := except_bind_eq_ok.1 h
  have hcommand : r.command = .setCredentials deviceId file none tenant :=
    congrArg Invocation.command (Except.ok.inj hi)
  have hoptions : (r.words.laidOver r.environment).options = o :=
    congrArg Invocation.options (Except.ok.inj hi)
  unfold Invocation.read
  rw [readWords_assertion hfront (Progress.isNeutral_start .root) hr hcommand v, except_bind_ok,
    ← hoptions]
  unfold Reading.asserting
  rw [hcommand]
  rfl

-- Words behind two dashes are no arguments.
example : Invocation.read []
    ["creds", "-pprod", "set", "-f", "a.json", "--if-match=v1", "--", "--if-match=v2"] =
      .ok ⟨{ profile := some "prod" },
        .setCredentials "--if-match=v2" "a.json" (some "v1") none⟩ := rfl

end DeviceRegistry.CommandLine
