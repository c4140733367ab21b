import DeviceRegistry.CommandLine.Reader
import DeviceRegistry.Proofs.Steps

/-!
# `DeviceRegistry.Proofs.CommandLine.Flags`: arguments that say how a command reports

The arguments `--output`, `--verbose` and `--quiet` hold at every level and say how a command
reports. What the other arguments give does not depend on them. Main statements:

* `put_withoutFlags`: taking a flag gives nothing but the flag, and taking any other argument does
  not depend on flags.
* `Level.sets_of_mem_arguments`, `Level.sets_of_mem_positions`: what the arguments of a level set.
* `readWord_cases`: the steps that reading a word comes to.
* `Matches.readWord`: two readings that are the same but for flags stay so when they read the same
  word.
-/

set_option autoImplicit false

namespace DeviceRegistry.CommandLine

open DeviceRegistry.Settings (Environment)

variable {env : Environment} {l : Level} {a : Argument} {p p' q q' s : Progress} {g g' : Given}
  {set : Given → Given} {text word : String} {words words' : List String}

/-! ### Without flags -/

/-- The names of the arguments that say how a command reports. -/
def flagNames : List String := ["output", "verbose", "quiet"]

/-- What is given besides flags. -/
def Given.withoutFlags (g : Given) : Given :=
  { g with output := none, verbosity := 0, quiet := none }

/-- Options besides flags. -/
def Options.withoutFlags (o : Options) : Options :=
  { o with output := none, verbosity := 0, quiet := false }

/-- A level without the flags that were read at it. -/
def Progress.withoutFlags (p : Progress) : Progress :=
  { p with given := p.given.withoutFlags, taken := p.taken.filter (· ∉ flagNames) }

/-- A level without its flags is that level in everything but what is taken, so two levels that are
the same without flags have the rest in common. -/
theorem Progress.eq_of_withoutFlags (h : p.withoutFlags = p'.withoutFlags) :
    p.pending = p'.pending ∧ p.awaits = p'.awaits ∧ p.literal = p'.literal ∧
      p.positions = p'.positions := by
  have hfield {α : Type} (field : Progress → α) : field p.withoutFlags = field p'.withoutFlags :=
    congrArg field h
  exact ⟨hfield pending, hfield awaits, hfield literal, hfield positions⟩

/-- What an argument may do to what is given. -/
inductive Argument.CanSet (a : Argument) : (Given → Given) → Prop
  | value {take : String → Except Stop (Given → Given)} {text : String} {set : Given → Given}
    (role : a.role = .value take) (takes : take text = .ok set) : CanSet a set
  | switch {set : Bool → Given → Given} {b : Bool} (role : a.role = .switch set) : CanSet a (set b)
  | counter {add : Given → Given} (role : a.role = .counter add) : CanSet a add

/-- What the argument of a name may do to what is given. -/
inductive Sets : String → (Given → Given) → Prop
  | profile (s : String) : Sets "profile" fun g => { g with profile := s }
  | registry (s : String) : Sets "registry" fun g => { g with registry := s }
  | output (f : Format) : Sets "output" fun g => { g with output := f }
  | verbose : Sets "verbose" fun g => { g with verbosity := g.verbosity + 1 }
  | quiet (b : Bool) : Sets "quiet" fun g => { g with quiet := b }
  | insecure (b : Bool) : Sets "insecure" fun g => { g with insecure := b }
  | timeout (n : UInt64) : Sets "timeout" fun g => { g with timeout := n }
  | tenant (s : String) : Sets "tenant" fun g => { g with tenant := s }
  | file (s : String) : Sets "file" fun g => { g with file := s }
  | ifMatch (s : String) : Sets "if-match" fun g => { g with ifMatch := s }
  | deviceId (s : String) : Sets "device_id" fun g => { g with deviceId := s }

/-- What the arguments of all levels set, found by going through the list of them. Together with the
own arguments of a level this shows `Sets` to be complete, and nothing else is known of an argument
later on. -/
theorem sets_of_mem_shared (ha : a ∈ sharedArguments) (hset : a.CanSet set) :
    Sets a.name set := by
  simp only [sharedArguments, List.mem_cons, List.not_mem_nil, or_false] at ha
  -- The arguments that all commands share, one by one. Most roles do not fit, and those that do set
  -- one field.
  rcases ha with rfl | rfl | rfl | rfl | rfl | rfl | rfl | rfl | rfl <;>
    rcases hset with ⟨hrole, htakes⟩ | ⟨hrole⟩ | ⟨hrole⟩ <;>
    cases hrole
  · cases htakes; exact .profile _
  · cases htakes; exact .registry _
  · dsimp only at htakes
    split at htakes
    · cases htakes; exact .output _
    · cases htakes
  · exact .verbose
  · exact .quiet _
  · exact .insecure _
  · dsimp only at htakes
    split at htakes
    · cases htakes; exact .timeout _
    · cases htakes

/-- What the arguments set that only some levels have; the values of these are texts and can be
anything. -/
theorem sets_of_mem_own (ha : a ∈ [tenantArgument, fileArgument, ifMatchArgument, deviceArgument])
    (hset : a.CanSet set) : Sets a.name set := by
  simp only [List.mem_cons, List.not_mem_nil, or_false] at ha
  rcases ha with rfl | rfl | rfl | rfl <;>
    rcases hset with ⟨hrole, htakes⟩ | ⟨hrole⟩ | ⟨hrole⟩ <;>
    cases hrole
  · cases htakes; exact .tenant _
  · dsimp only at htakes
    split at htakes
    · cases htakes
    · cases htakes; exact .file _
  · cases htakes; exact .ifMatch _
  · cases htakes; exact .deviceId _

/-- What the arguments of a level set: those of all levels, and those of its own. This is the only
place that goes through the levels, so a new argument needs a case of `Sets` and a line here. -/
theorem Level.sets_of_mem_arguments (ha : a ∈ l.arguments) (hset : a.CanSet set) :
    Sets a.name set := by
  have htenant : a ∈ tenantArgument :: sharedArguments → Sets a.name set := by
    intro ha
    rcases List.mem_cons.1 ha with rfl | ha
    · exact sets_of_mem_own (by simp) hset
    · exact sets_of_mem_shared ha hset
  cases l with
  | getCredentials => exact htenant ha
  | setCredentials =>
    rcases List.mem_cons.1 ha with rfl | ha
    · exact sets_of_mem_own (by simp) hset
    · rcases List.mem_cons.1 ha with rfl | ha
      · exact sets_of_mem_own (by simp) hset
      · exact htenant ha
  | _ => exact sets_of_mem_shared ha hset

/-- What words that stand for themselves set. Levels that take such a word take one of a file or of
a device. -/
theorem Level.sets_of_mem_positions (ha : a ∈ l.positions) (hset : a.CanSet set) :
    Sets a.name set := by
  refine sets_of_mem_own ?_ hset
  cases l with
  | getCredentials | setCredentials | validateCredentials | validateDevice =>
    rw [List.mem_singleton.1 ha]
    simp
  | _ => cases ha

/-- A flag sets nothing but itself, and any other argument sets the same whatever the flags are. -/
def Argument.IsTidy (a : Argument) : Prop :=
  ∀ set, a.CanSet set → ∀ g : Given,
    (set g).withoutFlags = if a.name ∈ flagNames then g.withoutFlags else set g.withoutFlags

/-- Setting a flag leaves nothing but the flag changed, and setting anything else commutes with
leaving out the flags. The cases are the arguments. -/
theorem Sets.withoutFlags {name : String} (h : Sets name set) (g : Given) :
    (set g).withoutFlags = if name ∈ flagNames then g.withoutFlags else set g.withoutFlags := by
  cases h <;> rfl

/-- So every argument of a level is tidy. Nothing more has to be known of arguments when two
readings are compared. -/
theorem Level.isTidy_of_mem_arguments (ha : a ∈ l.arguments) : a.IsTidy :=
  fun _ hset g => (sets_of_mem_arguments ha hset).withoutFlags g

/-- And so is every word that stands for itself. These arguments have no names, so they are not
among those of the lemma above. -/
theorem Level.isTidy_of_mem_positions (ha : a ∈ l.positions) : a.IsTidy :=
  fun _ hset g => (sets_of_mem_positions ha hset).withoutFlags g

namespace Progress

/-! ### Taking arguments -/

/-- A level with one more argument taken. -/
def put (p : Progress) (a : Argument) (set : Given → Given) : Progress :=
  { p with given := set p.given, taken := a.name :: p.taken }

/-- Taking a flag gives nothing but the flag, and taking any other argument does not depend on
flags. Without flags, what is taken shows the other arguments alone. -/
theorem put_withoutFlags (ha : a.IsTidy) (hset : a.CanSet set) :
    (p.put a set).withoutFlags =
      if a.name ∈ flagNames then p.withoutFlags else p.withoutFlags.put a set := by
  have hgiven := ha set hset p.given
  unfold put withoutFlags
  dsimp only
  by_cases hflag : a.name ∈ flagNames
  · rw [if_pos hflag] at hgiven ⊢
    rw [hgiven, List.filter_cons_of_neg (by simpa using hflag)]
  · rw [if_neg hflag] at hgiven ⊢
    rw [hgiven, List.filter_cons_of_pos (by simpa using hflag)]

/-- Taking the same argument keeps two levels the same but for flags. -/
theorem put_congr (ha : a.IsTidy) (hset : a.CanSet set) (h : p.withoutFlags = p'.withoutFlags) :
    (p.put a set).withoutFlags = (p'.put a set).withoutFlags := by
  rw [put_withoutFlags ha hset, put_withoutFlags ha hset, h]

/-- A value is taken when the argument has values, may be taken, and the text can be read as a
value; what is then given is what it was read as. -/
theorem takeValue_eq_ok (h : p.takeValue a text = .ok q) :
    ∃ take set, a.role = .value take ∧ take text = .ok set ∧ q = p.put a set := by
  unfold takeValue at h
  split at h
  · rename_i take hrole
    split at h
    · cases h
    · obtain ⟨set, hset, rfl⟩ := except_map_eq_ok.1 h
      exact ⟨take, set, hrole, hset, rfl⟩
  · cases h

/-- Taking the same text as the value of the same argument keeps two levels the same but for flags,
since the text is read as the same value in both. -/
theorem takeValue_congr (ha : a.IsTidy) (h : p.withoutFlags = p'.withoutFlags)
    (hq : p.takeValue a text = .ok q) (hq' : p'.takeValue a text = .ok q') :
    q.withoutFlags = q'.withoutFlags := by
  obtain ⟨take, set, hrole, hset, rfl⟩ := takeValue_eq_ok hq
  obtain ⟨take', set', hrole', hset', rfl⟩ := takeValue_eq_ok hq'
  -- The same text gives the same in both.
  cases hrole.symm.trans hrole'
  cases hset.symm.trans hset'
  exact put_congr ha (.value hrole hset) h

/-- Taking what is pending changes nothing where nothing is pending, and takes a value otherwise; an
argument that still waits for its value cannot be settled. -/
theorem settle_eq_ok (h : p.settle = .ok q) :
    (p.pending = none ∧ q = p) ∨ ∃ a text, p.pending = some (a, some text) ∧
      { p with pending := none, awaits := false }.takeValue a text = .ok q := by
  unfold settle at h
  split at h
  · rename_i hpending
    cases h
    exact .inl ⟨hpending, rfl⟩
  · cases h
  · rename_i a text hpending
    exact .inr ⟨a, text, hpending, h⟩

/-- Behind that nothing is pending, and how the words are read and which of them stand for
themselves is as before. -/
theorem settle_keeps (h : p.settle = .ok q) :
    q.pending = none ∧ q.literal = p.literal ∧ q.positions = p.positions := by
  rcases settle_eq_ok h with ⟨hpending, rfl⟩ | ⟨a, text, -, htake⟩
  · exact ⟨hpending, rfl, rfl⟩
  · obtain ⟨-, -, -, -, rfl⟩ := takeValue_eq_ok htake
    exact ⟨rfl, rfl, rfl⟩

/-! ### What words are read as -/

/-- What a name is read as does not depend on what is given: it is no name of an argument, or the
argument is taken, with the value in the word if there is one. -/
theorem readName_cases (l : Level) (name : List Char) :
    (∃ why, ∀ p : Progress, p.readName l name = .error why) ∨
    ∃ a ∈ l.arguments, (∀ p : Progress, p.readName l name = p.takeMark a) ∨
      ∃ text, ∀ p : Progress, p.readName l name = p.takeAttached a text := by
  unfold readName
  dsimp only
  split
  · exact .inl ⟨_, fun _ => rfl⟩
  · rename_i a hfind hrest
    exact .inr ⟨a, List.mem_of_find?_eq_some hfind, .inl fun _ => rfl⟩
  · rename_i a x text hfind hrest
    exact .inr ⟨a, List.mem_of_find?_eq_some hfind, .inr ⟨_, fun _ => rfl⟩⟩

/-- The rest of a word is the value of an argument that has one; an equals sign in front of it is
left out. -/
theorem readLetters_value {x : Char} (y : Char) (letters : List Char)
    {take : String → Except Stop (Given → Given)}
    (hfind : (l.arguments.find? fun a => a.letter = some x) = some a)
    (hrole : a.role = .value take) :
    ∃ text, ∀ p : Progress, p.readLetters l (x :: y :: letters) = p.takeAttached a text := by
  by_cases hy : y = '='
  · exact ⟨String.ofList letters, fun p => by simp [readLetters, hfind, hrole, hy]⟩
  · exact ⟨String.ofList (y :: letters), fun p => by simp [readLetters, hfind, hrole, hy]⟩

/-- Letters that stand behind a dash: the first is no letter of an argument, or the argument is
taken, in which case it has the rest as its value or the rest is read on. -/
theorem readLetters_cases (l : Level) (x : Char) (letters : List Char) :
    (∃ why, ∀ p : Progress, p.readLetters l (x :: letters) = .error why) ∨
    ∃ a ∈ l.arguments, (∀ p : Progress, p.readLetters l (x :: letters) = p.takeMark a) ∨
      (∃ text, ∀ p : Progress, p.readLetters l (x :: letters) = p.takeAttached a text) ∨
      ∀ p : Progress, p.readLetters l (x :: letters) =
        p.takeMark a >>= fun q => q.readLetters l letters := by
  cases hfind : l.arguments.find? fun a => a.letter = some x with
  | none => exact .inl ⟨.unknownArgument, fun p => by simp only [readLetters, hfind]⟩
  | some a =>
    refine .inr ⟨a, List.mem_of_find?_eq_some hfind, ?_⟩
    cases hrole : a.role with
    | value take =>
      cases letters with
      | nil => exact .inl fun p => by simp only [readLetters, hfind, hrole]
      | cons y letters => exact .inr (.inl (readLetters_value y letters hfind hrole))
    | switch set | counter add | stop why =>
      exact .inr (.inr fun p => by simp only [readLetters, hfind, hrole])

/-- A word is two dashes, a name, letters, or something that stands for itself. Which of these it
is, is told by the word alone, so two readings go the same way. -/
theorem readWord_cases (l : Level) (word : String) :
    (∀ p : Progress, p.literal = false → p.readWord l word = .ok { p with literal := true }) ∨
    (∃ name, ∀ p : Progress, p.literal = false → p.readWord l word = p.readName l name) ∨
    (∃ x letters, ∀ p : Progress, p.literal = false →
      p.readWord l word = p.readLetters l (x :: letters)) ∨
    ∀ p : Progress, p.literal = false → p.readWord l word = match p.awaits, p.pending with
      | true, some (a, _) => .ok { p with pending := some (a, some word), awaits := false }
      | _, _ => p.readPosition l word := by
  have hwords (p : Progress) (hliteral : p.literal = false) : ¬ p.literal = true := by
    simp [hliteral]
  unfold readWord
  split
  · exact .inl fun p hp => if_neg (hwords p hp)
  · exact .inr (.inl ⟨_, fun p hp => if_neg (hwords p hp)⟩)
  · exact .inr (.inr (.inl ⟨_, _, fun p hp => if_neg (hwords p hp)⟩))
  · exact .inr (.inr (.inr fun p hp => if_neg (hwords p hp)))

/-- Behind two dashes every word stands for itself, whatever it looks like. -/
theorem readWord_literally (hliteral : p.literal = true) :
    p.readWord l word = p.readPosition l word := if_pos hliteral

/-! ### Levels that differ in flags -/

/-- Two readings of a level are the same but for flags, when what is pending has been taken. -/
structure Matches (p p' : Progress) : Prop where
  literal : p.literal = p'.literal
  awaits : p.awaits = p'.awaits
  positions : p.positions = p'.positions
  tidy : ∀ a ∈ p.positions, a.IsTidy
  waits : p.awaits = true → ∃ a, p.pending = some (a, none) ∧ a.IsTidy ∧
    p.withoutFlags = p'.withoutFlags
  settles : ∀ q q', p.settle = .ok q → p'.settle = .ok q' → q.withoutFlags = q'.withoutFlags

namespace Matches

/-- Being the same but for flags can be turned around. So a statement on an additional flag is
needed on one of the two sides only. -/
theorem symm (h : p.Matches p') : p'.Matches p where
  literal := h.literal.symm
  awaits := h.awaits.symm
  positions := h.positions.symm
  tidy := h.positions ▸ h.tidy
  waits hawaits := by
    obtain ⟨a, hpending, ha, heq⟩ := h.waits (h.awaits.trans hawaits)
    exact ⟨a, (eq_of_withoutFlags heq).1 ▸ hpending, ha, heq.symm⟩
  settles q q' hq hq' := (h.settles q' q hq' hq).symm

/-- With nothing pending, levels only have to be the same without flags: the rest of `Matches` is
about what is put aside. -/
theorem of_eq (h : p.withoutFlags = p'.withoutFlags) (hpending : p.pending = none)
    (hawaits : p.awaits = false) (htidy : ∀ a ∈ p.positions, a.IsTidy) : p.Matches p' where
  literal := (eq_of_withoutFlags h).2.2.1
  awaits := (eq_of_withoutFlags h).2.1
  positions := (eq_of_withoutFlags h).2.2.2
  tidy := htidy
  waits hwaits := by
    rw [hawaits] at hwaits
    cases hwaits
  settles q q' hq hq' := by
    have hpending' : p'.pending = none := (eq_of_withoutFlags h).1 ▸ hpending
    unfold settle at hq hq'
    rw [hpending] at hq
    rw [hpending'] at hq'
    cases hq
    cases hq'
    exact h

/-- A level that can be settled waits for nothing, as an argument without its value cannot be
taken. -/
theorem awaits_of_settle (h : p.Matches p') (hq : p.settle = .ok q) :
    p.awaits = false ∧ q.awaits = false := by
  have hawaits : p.awaits = false := by
    refine Bool.eq_false_iff.2 fun hawaits => ?_
    obtain ⟨a, hpending, -, -⟩ := h.waits hawaits
    unfold settle at hq
    rw [hpending] at hq
    cases hq
  refine ⟨hawaits, ?_⟩
  rcases settle_eq_ok hq with ⟨-, rfl⟩ | ⟨a, text, -, htake⟩
  · exact hawaits
  · obtain ⟨-, -, -, -, rfl⟩ := takeValue_eq_ok htake
    rfl

/-- Taking the same argument behind what was pending in each of the two levels. -/
theorem put (h : p.Matches p') (ha : a.IsTidy) (hset : a.CanSet set) (hq : p.settle = .ok q)
    (hq' : p'.settle = .ok q') : (q.put a set).Matches (q'.put a set) := by
  obtain ⟨hpending, -, hpositions⟩ := settle_keeps hq
  exact of_eq (put_congr ha hset (h.settles q q' hq hq')) hpending (h.awaits_of_settle hq).2
    (hpositions ▸ h.tidy)

/-- Naming the same argument: it is put aside in both, or taken in both behind what was pending.
What was pending may differ by flags, and so it is taken on both sides before the argument is
compared. -/
theorem takeMark (h : p.Matches p') (ha : a.IsTidy) (hq : p.takeMark a = .ok q)
    (hq' : p'.takeMark a = .ok q') : q.Matches q' := by
  obtain ⟨s, hs, hq⟩ := except_bind_eq_ok.1 hq
  obtain ⟨s', hs', hq'⟩ := except_bind_eq_ok.1 hq'
  -- A value is waited for, which both runs do alike. A switch that was used already is an error,
  -- which does not count here.
  cases hrole : a.role with
  | value take =>
    rw [hrole] at hq hq'
    cases hq
    cases hq'
    have hsame := h.settles s s' hs hs'
    obtain ⟨-, -, hliteral, hpositions⟩ := eq_of_withoutFlags hsame
    refine ⟨hliteral, rfl, hpositions, (settle_keeps hs).2.2 ▸ h.tidy, fun _ => ?_, ?_⟩
    · exact ⟨a, rfl, ha, congrArg (fun s => { s with pending := some (a, none), awaits := true })
        hsame⟩
    · intro r r' hr
      cases hr
  | switch set =>
    rw [hrole] at hq hq'
    dsimp only at hq hq'
    split at hq
    · cases hq
    · split at hq'
      · cases hq'
      · cases hq
        cases hq'
        exact h.put ha (.switch hrole) hs hs'
  | counter add =>
    rw [hrole] at hq hq'
    cases hq
    cases hq'
    exact h.put ha (.counter hrole) hs hs'
  | stop why =>
    rw [hrole] at hq
    cases hq

/-- The same argument with its value in the same word is taken in both behind what was pending. -/
theorem takeAttached (h : p.Matches p') (ha : a.IsTidy) (hq : p.takeAttached a text = .ok q)
    (hq' : p'.takeAttached a text = .ok q') : q.Matches q' := by
  unfold Progress.takeAttached at hq hq'
  split at hq
  · rename_i take hrole
    rw [hrole] at hq'
    obtain ⟨s, hs, hq⟩ := except_bind_eq_ok.1 hq
    obtain ⟨s', hs', hq'⟩ := except_bind_eq_ok.1 hq'
    obtain ⟨take, set, hrole, hset, rfl⟩ := takeValue_eq_ok hq
    obtain ⟨take', set', hrole', hset', rfl⟩ := takeValue_eq_ok hq'
    cases hrole.symm.trans hrole'
    cases hset.symm.trans hset'
    exact h.put ha (.value hrole hset) hs hs'
  · cases hq

/-! ### Words -/

/-- The same name behind two dashes, which takes the same argument in both. -/
theorem readName (h : p.Matches p') {name : List Char} (hq : p.readName l name = .ok q)
    (hq' : p'.readName l name = .ok q') : q.Matches q' := by
  rcases readName_cases l name with ⟨why, hwhy⟩ | ⟨a, ha, hmark | ⟨text, hattached⟩⟩
  · cases (hwhy p).symm.trans hq
  · exact h.takeMark (Level.isTidy_of_mem_arguments ha) (hmark p ▸ hq) (hmark p' ▸ hq')
  · exact h.takeAttached (Level.isTidy_of_mem_arguments ha) (hattached p ▸ hq) (hattached p' ▸ hq')

/-- The same letters behind one dash. The induction is on the letters, as each of them may take an
argument, and the two levels may differ by flags in front of every one of them. -/
theorem readLetters (h : p.Matches p') {letters : List Char} (hq : p.readLetters l letters = .ok q)
    (hq' : p'.readLetters l letters = .ok q') : q.Matches q' := by
  induction letters generalizing p p' with
  | nil =>
    cases hq
    cases hq'
    exact h
  | cons x letters ih =>
    rcases readLetters_cases l x letters with
      ⟨why, hwhy⟩ | ⟨a, ha, hmark | ⟨text, hattached⟩ | hmark⟩
    · cases (hwhy p).symm.trans hq
    · exact h.takeMark (Level.isTidy_of_mem_arguments ha) (hmark p ▸ hq) (hmark p' ▸ hq')
    · exact h.takeAttached (Level.isTidy_of_mem_arguments ha) (hattached p ▸ hq)
        (hattached p' ▸ hq')
    · obtain ⟨s, hs, hq⟩ := except_bind_eq_ok.1 (hmark p ▸ hq)
      obtain ⟨s', hs', hq'⟩ := except_bind_eq_ok.1 (hmark p' ▸ hq')
      exact ih (h.takeMark (Level.isTidy_of_mem_arguments ha) hs hs') hq hq'

/-- A word that is put aside until the next argument starts is pending in both levels, and taking it
later gives the same. -/
theorem of_pending (h : p.withoutFlags = p'.withoutFlags)
    (hpending : p.pending = some (a, some word))
    (hawaits : p.awaits = false) (ha : a.IsTidy) (htidy : ∀ a ∈ p.positions, a.IsTidy) :
    p.Matches p' where
  literal := (eq_of_withoutFlags h).2.2.1
  awaits := (eq_of_withoutFlags h).2.1
  positions := (eq_of_withoutFlags h).2.2.2
  tidy := htidy
  waits hwaits := by
    rw [hawaits] at hwaits
    cases hwaits
  settles q q' hq hq' := by
    have hpending' : p'.pending = some (a, some word) := (eq_of_withoutFlags h).1 ▸ hpending
    unfold settle at hq hq'
    rw [hpending] at hq
    rw [hpending'] at hq'
    exact takeValue_congr ha
      (congrArg (fun s => { s with pending := none, awaits := false }) h) hq hq'

/-- The same word that stands for itself is put aside for the same argument, behind what was
pending. Both levels have the same positions left, so they agree on whether there is one for it. -/
theorem readPosition (h : p.Matches p') (hq : p.readPosition l word = .ok q)
    (hq' : p'.readPosition l word = .ok q') : q.Matches q' := by
  unfold Progress.readPosition at hq hq'
  rw [← h.positions] at hq'
  -- Both runs have the same positions left. With none of them both fail.
  cases hpositions : p.positions with
  | nil =>
    rw [hpositions] at hq
    dsimp only at hq
    split at hq <;> cases hq
  | cons a r =>
    rw [hpositions] at hq hq'
    obtain ⟨s, hs, hq⟩ := except_bind_eq_ok.1 hq
    obtain ⟨s', hs', hq'⟩ := except_bind_eq_ok.1 hq'
    cases hq
    cases hq'
    have htidy := hpositions ▸ h.tidy
    exact of_pending
      (congrArg (fun s => { s with pending := some (a, some word), positions := r })
        (h.settles s s' hs hs'))
      rfl (h.awaits_of_settle hs).2 (htidy a List.mem_cons_self)
      fun a ha => htidy a (List.mem_cons_of_mem _ ha)

/-- Taking what is pending has nothing to do with how the words behind it are read, so two dashes
may come before or after it. -/
theorem settle_literal (p : Progress) :
    { p with literal := true }.settle = p.settle.map fun q => { q with literal := true } := by
  obtain ⟨given, taken, pending, awaits, literal, positions⟩ := p
  match pending with
  | none | some (_, none) => rfl
  | some (a, some text) =>
    simp only [settle, Progress.takeValue]
    split
    · rename_i take hrole
      split
      · rfl
      · cases take text <;> rfl
    · rfl

/-- Two dashes keep two levels the same but for flags: from there on every word stands for itself,
on both sides, and what has been taken is not touched. -/
theorem literally (h : p.Matches p') :
    ({ p with literal := true }).Matches { p' with literal := true } where
  literal := rfl
  awaits := h.awaits
  positions := h.positions
  tidy := h.tidy
  waits hwaits := by
    obtain ⟨a, hpending, ha, heq⟩ := h.waits hwaits
    exact ⟨a, hpending, ha, congrArg (fun s => { s with literal := true }) heq⟩
  settles q q' hq hq' := by
    obtain ⟨s, hs, rfl⟩ := except_map_eq_ok.1 (settle_literal p ▸ hq)
    obtain ⟨s', hs', rfl⟩ := except_map_eq_ok.1 (settle_literal p' ▸ hq')
    exact congrArg (fun s => { s with literal := true }) (h.settles s s' hs hs')

/-- One more word: whatever the word is, it is read in the same way in both levels, and what it
takes is the same. -/
theorem readWord (h : p.Matches p') (hq : p.readWord l word = .ok q)
    (hq' : p'.readWord l word = .ok q') : q.Matches q' := by
  -- Both runs take the same of the four ways, as they agree on all that decides it. In the last one
  -- the word may be a value that is waited for.
  cases hliteral : p.literal with
  | true =>
    rw [readWord_literally hliteral] at hq
    rw [readWord_literally (h.literal ▸ hliteral)] at hq'
    exact h.readPosition hq hq'
  | false =>
    have hliteral' : p'.literal = false := h.literal ▸ hliteral
    rcases readWord_cases l word with hdashes | ⟨name, hname⟩ | ⟨x, letters, hletters⟩ | hother
    · rw [hdashes p hliteral] at hq
      rw [hdashes p' hliteral'] at hq'
      cases hq
      cases hq'
      exact h.literally
    · exact h.readName (hname p hliteral ▸ hq) (hname p' hliteral' ▸ hq')
    · exact h.readLetters (hletters p hliteral ▸ hq) (hletters p' hliteral' ▸ hq')
    · rw [hother p hliteral] at hq
      rw [hother p' hliteral', ← h.awaits] at hq'
      cases hawaits : p.awaits with
      | false =>
        rw [hawaits] at hq hq'
        exact h.readPosition hq hq'
      | true =>
        obtain ⟨a, hpending, ha, heq⟩ := h.waits hawaits
        rw [hawaits, hpending] at hq
        rw [hawaits, ← (eq_of_withoutFlags heq).1, hpending] at hq'
        cases hq
        cases hq'
        exact of_pending
          (congrArg (fun s => { s with pending := some (a, some word), awaits := false }) heq)
          rfl rfl ha h.tidy

/-- A flag changes nothing but what is pending, which has to be taken. So one of two readings may
have a flag more than the other. -/
theorem put_flag (h : p.Matches p') (ha : a.IsTidy) (hflag : a.name ∈ flagNames)
    (hset : a.CanSet set) (hq : p.settle = .ok q) : (q.put a set).Matches p' := by
  have hput : (q.put a set).withoutFlags = q.withoutFlags := by
    rw [put_withoutFlags ha hset, if_pos hflag]
  obtain ⟨hpending, hliteral, hpositions⟩ := settle_keeps hq
  obtain ⟨hawaits, hawaits'⟩ := h.awaits_of_settle hq
  refine ⟨hliteral.trans h.literal, hawaits'.trans (hawaits ▸ h.awaits),
    hpositions.trans h.positions, fun b hb => h.tidy b (hpositions ▸ hb), fun hwaits => ?_,
    fun r r' hr hr' => ?_⟩
  · cases hwaits.symm.trans hawaits'
  · rcases settle_eq_ok hr with ⟨-, rfl⟩ | ⟨b, text, hpending', -⟩
    · exact hput.trans (h.settles q r' hq hr')
    · cases hpending'.symm.trans hpending

end Matches

end Progress

end DeviceRegistry.CommandLine
