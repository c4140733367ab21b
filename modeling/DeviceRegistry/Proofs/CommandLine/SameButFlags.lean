import DeviceRegistry.Proofs.CommandLine.Flags

/-!
# `DeviceRegistry.Proofs.CommandLine.SameButFlags`: words that are the same but for flags

A flag may stand wherever an argument can start, at any level, with its value behind it or in the
same word. `SameButFlags` says that two lists of words are the same but for flags. Main statements:

* `Matches.left`: a flag leaves everything else as it is.
* `readVariables_congr`: so do variables that stand in for flags.
* `read_sameButFlags`: words that are the same but for flags ask for the same command, with the same
  options otherwise.
-/

set_option autoImplicit false

namespace DeviceRegistry.CommandLine

open DeviceRegistry.Settings (Environment)

variable {env : Environment} {l : Level} {a : Argument} {p p' q q' : Progress}
  {text word : String} {words words' : List String}

/-! ### Flags -/

/-- A flag without a value. -/
def Argument.IsMark (a : Argument) : Prop :=
  a.name ∈ flagNames ∧ ((∃ set, a.role = .switch set) ∨ ∃ add, a.role = .counter add)

/-- The letters `v` and `q` are marks at every level, since all levels share these arguments. -/
theorem Level.find_mark_letter (l : Level) {x : Char} (hx : x = 'v' ∨ x = 'q') :
    ∃ a, (l.arguments.find? fun a => a.letter = some x) = some a ∧ a.IsMark := by
  rcases hx with rfl | rfl
  · cases l <;> exact ⟨_, rfl, by decide, .inr ⟨_, rfl⟩⟩
  · cases l <;> exact ⟨_, rfl, by decide, .inl ⟨_, rfl⟩⟩

/-- The names `verbose` and `quiet` are marks at every level, so a flag may stand at the level of
any command. -/
theorem Level.find_mark_name (l : Level) {name : String} (h : name = "verbose" ∨ name = "quiet") :
    ∃ a, (l.arguments.find? fun a => a.name = name) = some a ∧ a.IsMark := by
  rcases h with rfl | rfl
  · cases l <;> exact ⟨_, rfl, by decide, .inr ⟨_, rfl⟩⟩
  · cases l <;> exact ⟨_, rfl, by decide, .inl ⟨_, rfl⟩⟩

/-- The format is asked for by the same letter and the same name at every level, and always with a
value. -/
theorem Level.find_output (l : Level) : ∃ a take,
    (l.arguments.find? fun a => a.letter = some 'o') = some a ∧
      (l.arguments.find? fun a => a.name = "output") = some a ∧ a.name ∈ flagNames ∧
      a.role = .value take := by
  cases l <;> exact ⟨_, _, rfl, rfl, by decide, rfl⟩

/-- No command is named by a word with a dash in front, so such a word is read at its level, except
where a value is waited for. -/
theorem Level.isCommand_of_dash (l : Level) {s : List Char} (h : word.toList = '-' :: s) :
    l.isCommand word = false := by
  have hnames : ∀ name ∈ helpWord :: l.commands.map Prod.fst, name.toList.head? ≠ some '-' := by
    cases l <;> decide
  have hne : ∀ name ∈ helpWord :: l.commands.map Prod.fst, word ≠ name := by
    rintro name hname rfl
    exact hnames _ hname (by rw [h]; rfl)
  have hlookup : l.commands.lookup word = none := by
    refine List.lookup_eq_none_iff.2 fun entry hentry => ?_
    simpa using hne entry.1 (List.mem_cons_of_mem _ (List.mem_map_of_mem hentry))
  have hhelp : word ≠ helpWord := hne _ List.mem_cons_self
  simp [isCommand, hlookup, hhelp]

/-- The words of a flag. -/
inductive IsFlag : List String → Prop
  | letters {x : Char} {letters : List Char} (marks : ∀ c ∈ x :: letters, c = 'v' ∨ c = 'q') :
    IsFlag [String.ofList ('-' :: x :: letters)]
  | verbose : IsFlag ["--verbose"]
  | quiet : IsFlag ["--quiet"]
  | output (f : Format) : IsFlag ["--output", f.name]
  | outputAttached (f : Format) : IsFlag ["--output=" ++ f.name]
  | outputLetter (f : Format) : IsFlag ["-o", f.name]
  | outputLetterAttached (f : Format) : IsFlag ["-o" ++ f.name]
  | outputLetterEquals (f : Format) : IsFlag ["-o=" ++ f.name]

namespace Progress.Matches

/-- Taking a mark leaves what has been read otherwise, as it sets only flags. It is what allows a
command line to have a flag that the other one lacks. -/
theorem takeMark_left (h : p.Matches p') (ha : a.IsTidy) (hmark : a.IsMark)
    (hq : p.takeMark a = .ok q) : q.Matches p' := by
  obtain ⟨s, hs, hq⟩ := except_bind_eq_ok.1 hq
  obtain ⟨hflag, ⟨set, hrole⟩ | ⟨add, hrole⟩⟩ := hmark
  · rw [hrole] at hq
    dsimp only at hq
    split at hq
    · cases hq
    · cases hq
      exact h.put_flag ha hflag (.switch hrole) hs
  · rw [hrole] at hq
    cases hq
    exact h.put_flag ha hflag (.counter hrole) hs

/-- Letters that are marks leave what has been read otherwise, each of them after the other. The
induction is on the letters. -/
theorem readLetters_left (h : p.Matches p') {letters : List Char}
    (hmarks : ∀ c ∈ letters, c = 'v' ∨ c = 'q') (hq : p.readLetters l letters = .ok q) :
    q.Matches p' := by
  induction letters generalizing p with
  | nil =>
    cases hq
    exact h
  | cons x letters ih =>
    obtain ⟨a, hfind, hmark⟩ := l.find_mark_letter (hmarks x List.mem_cons_self)
    have ha := Level.isTidy_of_mem_arguments (List.mem_of_find?_eq_some hfind)
    have hstep : p.readLetters l (x :: letters) =
        p.takeMark a >>= fun p => p.readLetters l letters := by
      obtain ⟨-, ⟨set, hrole⟩ | ⟨add, hrole⟩⟩ := hmark <;>
        simp only [Progress.readLetters, hfind, hrole]
    obtain ⟨s, hs, hq⟩ := except_bind_eq_ok.1 (hstep ▸ hq)
    exact ih (h.takeMark_left ha hmark hs) (fun c hc => hmarks c (List.mem_cons_of_mem _ hc)) hq

end Progress.Matches

namespace Progress

/-! ### Words of flags -/

/-- A name without a value is taken as it is. Only an equals sign would end it earlier. -/
theorem readName_alone {name : String} (hname : '=' ∉ name.toList)
    (hfind : (l.arguments.find? fun a => a.name = name) = some a) :
    p.readName l name.toList = p.takeMark a := by
  have hall : ∀ c ∈ name.toList, (decide (c ≠ '=')) = true := fun c hc =>
    decide_eq_true fun heq => hname (heq ▸ hc)
  have htake : (name.toList ++ []).takeWhile (fun c => decide (c ≠ '=')) = name.toList ++ [] :=
    List.takeWhile_append_of_pos hall
  have hdrop : (name.toList ++ []).dropWhile (fun c => decide (c ≠ '=')) = [] :=
    List.dropWhile_append_of_pos hall
  rw [List.append_nil] at htake hdrop
  unfold readName
  simp only [htake, hdrop, String.ofList_toList, hfind]

/-- A name is attached to the value behind the first equals sign, which may contain others. -/
theorem readName_attached {name : String} (hname : '=' ∉ name.toList)
    (hfind : (l.arguments.find? fun a => a.name = name) = some a) :
    p.readName l (name.toList ++ '=' :: text.toList) = p.takeAttached a text := by
  have hall : ∀ c ∈ name.toList, (decide (c ≠ '=')) = true := fun c hc =>
    decide_eq_true fun heq => hname (heq ▸ hc)
  have htake : (name.toList ++ '=' :: text.toList).takeWhile (fun c => decide (c ≠ '=')) =
      name.toList := by
    rw [List.takeWhile_append_of_pos hall, List.takeWhile_cons_of_neg (by decide), List.append_nil]
  have hdrop : (name.toList ++ '=' :: text.toList).dropWhile (fun c => decide (c ≠ '=')) =
      '=' :: text.toList := by
    rw [List.dropWhile_append_of_pos hall, List.dropWhile_cons_of_neg (by decide)]
  unfold readName
  simp only [htake, hdrop, String.ofList_toList, hfind]

/-- Two dashes in front of something make it a name, as long as arguments have not ended. -/
theorem readWord_name {name : List Char} (hliteral : p.literal = false) (hname : name ≠ [])
    (hword : word.toList = '-' :: '-' :: name) : p.readWord l word = p.readName l name := by
  simp [readWord, hliteral, hword]

/-- One dash in front of something makes it letters, as long as arguments have not ended. -/
theorem readWord_letters {x : Char} {letters : List Char} (hliteral : p.literal = false)
    (hx : x ≠ '-') (hword : word.toList = '-' :: x :: letters) :
    p.readWord l word = p.readLetters l (x :: letters) := by
  simp [readWord, hliteral, hword, hx]

end Progress

/-- A word that names no command is read at its level. Names of commands are words like others where
a value is waited for. -/
theorem readWords_word (h : p.awaits = true ∨ l.isCommand word = false) :
    readWords env l p (word :: words) = p.readWord l word >>= fun q => readWords env l q words := by
  rw [readWords, if_neg]
  rcases h with h | h <;> simp [h]

namespace Progress.Matches

/-- The value of a flag in the next word. Waiting for a value only ends with this word, whatever it
says: the name of a format is no word for anything else. -/
theorem value_left {f : Format} {take : String → Except Stop (Given → Given)} {r : Reading}
    (h : p.Matches p') (hliteral : p.literal = false) (ha : a.IsTidy) (hflag : a.name ∈ flagNames)
    (hrole : a.role = .value take) (hq : p.takeMark a = .ok q)
    (hr : readWords env l q (f.name :: words) = .ok r) :
    ∃ s, s.Matches p' ∧ readWords env l s words = .ok r := by
  obtain ⟨s, hs, hq⟩ := except_bind_eq_ok.1 hq
  rw [hrole] at hq
  cases hq
  obtain ⟨hpending, hsame, hpositions⟩ := settle_keeps hs
  obtain ⟨hawaits, hawaits'⟩ := h.awaits_of_settle hs
  -- No format starts with a dash, so the word behind the flag is its value.
  have hread : ({ s with pending := some (a, none), awaits := true }).readWord l f.name =
      .ok { s with pending := some (a, some f.name), awaits := false } := by
    unfold Progress.readWord
    rw [if_neg (by simp [hsame, hliteral])]
    cases f <;> rfl
  rw [readWords_word (.inl rfl), hread, except_bind_ok] at hr
  refine ⟨_, ?_, hr⟩
  -- What waits now is the value of a flag, which is left out when flags are compared.
  refine ⟨hsame.trans h.literal, hawaits ▸ h.awaits, hpositions.trans h.positions,
    fun b hb => h.tidy b (hpositions ▸ hb), fun hwaits => ?_, fun r r' hr hr' => ?_⟩
  · cases hwaits
  · have hidle : { s with pending := none, awaits := false } = s := by
      rw [← hpending, ← hawaits']
    rw [settle] at hr
    dsimp only at hr
    rw [hidle] at hr
    obtain ⟨take, set, hrole, hset, rfl⟩ := takeValue_eq_ok hr
    rw [put_withoutFlags ha (.value hrole hset), if_pos hflag]
    exact h.settles s r' hs hr'

/-- A flag with its value in the same word leaves what has been read otherwise. -/
theorem takeAttached_left (h : p.Matches p') (ha : a.IsTidy) (hflag : a.name ∈ flagNames)
    (hq : p.takeAttached a text = .ok q) : q.Matches p' := by
  unfold Progress.takeAttached at hq
  split at hq
  · obtain ⟨s, hs, hq⟩ := except_bind_eq_ok.1 hq
    obtain ⟨take, set, hrole, hset, rfl⟩ := takeValue_eq_ok hq
    exact h.put_flag ha hflag (.value hrole hset) hs
  · cases hq

/-- The words of a flag leave everything but flags as it is, wherever an argument can start. The
cases are the ways to write a flag; each of them reads on with the words behind it. -/
theorem left {flag : List String} {r : Reading} (h : p.Matches p') (hliteral : p.literal = false)
    (hflag : IsFlag flag) (hr : readWords env l p (flag ++ words) = .ok r) :
    ∃ q, q.Matches p' ∧ readWords env l q words = .ok r := by
  have hword {word : String} {words : List String} {s : List Char} (hdash : word.toList = '-' :: s)
      (hr : readWords env l p (word :: words) = .ok r) :
      ∃ q, p.readWord l word = .ok q ∧ readWords env l q words = .ok r := by
    rw [readWords_word (.inr (l.isCommand_of_dash hdash))] at hr
    exact except_bind_eq_ok.1 hr
  -- Each spelling of a flag is one word, and two of them take the word behind it as well.
  cases hflag with
  | @letters x letters marks =>
    obtain ⟨q, hq, hr⟩ := hword (String.toList_ofList) hr
    have hx : x ≠ '-' := by
      rcases marks x List.mem_cons_self with rfl | rfl <;> decide
    rw [readWord_letters hliteral hx String.toList_ofList] at hq
    exact ⟨q, h.readLetters_left marks hq, hr⟩
  | verbose =>
    obtain ⟨a, hfind, hmark⟩ := l.find_mark_name (.inl rfl)
    have ha := Level.isTidy_of_mem_arguments (List.mem_of_find?_eq_some hfind)
    have hlist : "--verbose".toList = '-' :: '-' :: "verbose".toList := by decide
    obtain ⟨q, hq, hr⟩ := hword hlist hr
    rw [readWord_name hliteral (by decide) hlist, readName_alone (by decide) hfind] at hq
    exact ⟨q, h.takeMark_left ha hmark hq, hr⟩
  | quiet =>
    obtain ⟨a, hfind, hmark⟩ := l.find_mark_name (.inr rfl)
    have ha := Level.isTidy_of_mem_arguments (List.mem_of_find?_eq_some hfind)
    have hlist : "--quiet".toList = '-' :: '-' :: "quiet".toList := by decide
    obtain ⟨q, hq, hr⟩ := hword hlist hr
    rw [readWord_name hliteral (by decide) hlist, readName_alone (by decide) hfind] at hq
    exact ⟨q, h.takeMark_left ha hmark hq, hr⟩
  | output f =>
    obtain ⟨a, take, hletter, hname, hflag, hrole⟩ := l.find_output
    have ha := Level.isTidy_of_mem_arguments (List.mem_of_find?_eq_some hname)
    have hlist : "--output".toList = '-' :: '-' :: "output".toList := by decide
    obtain ⟨q, hq, hr⟩ := hword hlist hr
    rw [readWord_name hliteral (by decide) hlist, readName_alone (by decide) hname] at hq
    exact h.value_left hliteral ha hflag hrole hq hr
  | outputAttached f =>
    obtain ⟨a, take, hletter, hname, hflag, hrole⟩ := l.find_output
    have ha := Level.isTidy_of_mem_arguments (List.mem_of_find?_eq_some hname)
    have hlist : ("--output=" ++ f.name).toList =
        '-' :: '-' :: ("output".toList ++ '=' :: f.name.toList) := by
      rw [String.toList_append]
      rfl
    obtain ⟨q, hq, hr⟩ := hword hlist hr
    rw [readWord_name hliteral (List.append_ne_nil_of_left_ne_nil (by decide) _) hlist,
      readName_attached (by decide) hname] at hq
    exact ⟨q, h.takeAttached_left ha hflag hq, hr⟩
  | outputLetter f =>
    obtain ⟨a, take, hletter, hname, hflag, hrole⟩ := l.find_output
    have ha := Level.isTidy_of_mem_arguments (List.mem_of_find?_eq_some hname)
    have hlist : "-o".toList = ['-', 'o'] := by decide
    obtain ⟨q, hq, hr⟩ := hword hlist hr
    rw [readWord_letters hliteral (by decide) hlist] at hq
    simp only [Progress.readLetters, hletter, hrole] at hq
    exact h.value_left hliteral ha hflag hrole hq hr
  | outputLetterAttached f =>
    obtain ⟨a, take, hletter, hname, hflag, hrole⟩ := l.find_output
    have ha := Level.isTidy_of_mem_arguments (List.mem_of_find?_eq_some hname)
    obtain ⟨x, s, hs⟩ : ∃ x s, f.name.toList = x :: s := by
      cases f <;> exact ⟨_, _, rfl⟩
    have hlist : ("-o" ++ f.name).toList = '-' :: 'o' :: x :: s := by
      rw [String.toList_append, hs]
      rfl
    obtain ⟨q, hq, hr⟩ := hword hlist hr
    obtain ⟨text, hattached⟩ := readLetters_value x s hletter hrole
    rw [readWord_letters hliteral (by decide) hlist, hattached] at hq
    exact ⟨q, h.takeAttached_left ha hflag hq, hr⟩
  | outputLetterEquals f =>
    obtain ⟨a, take, hletter, hname, hflag, hrole⟩ := l.find_output
    have ha := Level.isTidy_of_mem_arguments (List.mem_of_find?_eq_some hname)
    have hlist : ("-o=" ++ f.name).toList = '-' :: 'o' :: '=' :: f.name.toList := by
      rw [String.toList_append]
      rfl
    obtain ⟨q, hq, hr⟩ := hword hlist hr
    obtain ⟨text, hattached⟩ := readLetters_value '=' f.name.toList hletter hrole
    rw [readWord_letters hliteral (by decide) hlist, hattached] at hq
    exact ⟨q, h.takeAttached_left ha hflag hq, hr⟩

end Progress.Matches

/-! ### Closing a level -/

namespace Progress

/-- What a variable does depends on the variable alone: it gives nothing, or sets something in every
progress in the same way. -/
theorem takeVariable_eq_ok (env : Environment) (a : Argument) :
    (∀ p q, takeVariable env p a = .ok q → q = p) ∨
      ∃ set, a.CanSet set ∧ ∀ p q, takeVariable env p a = .ok q → q = p.put a set := by
  -- Without the variable nothing is changed. With it, the argument is set or the run fails.
  cases hvariable : a.envName.bind fun name => env.lookup name with
  | none =>
    left
    intro p q hq
    simp only [takeVariable, hvariable] at hq
    cases hq
    rfl
  | some text =>
    cases hrole : a.role with
    | value take =>
      cases htake : take text with
      | error why =>
        left
        intro p q hq
        simp only [takeVariable, hvariable, hrole] at hq
        obtain ⟨take', set, hrole', hset, -⟩ := takeValue_eq_ok hq
        cases hrole.symm.trans hrole'
        cases htake.symm.trans hset
      | ok set =>
        refine .inr ⟨set, .value hrole htake, fun p q hq => ?_⟩
        simp only [takeVariable, hvariable, hrole] at hq
        obtain ⟨take', set', hrole', hset, rfl⟩ := takeValue_eq_ok hq
        cases hrole.symm.trans hrole'
        cases htake.symm.trans hset
        rfl
    | switch set =>
      by_cases htrue : text = "true"
      · refine .inr ⟨set true, .switch hrole, fun p q hq => ?_⟩
        simp only [takeVariable, hvariable, hrole, htrue] at hq
        cases hq
        rfl
      · by_cases hfalse : text = "false"
        · refine .inr ⟨set false, .switch hrole, fun p q hq => ?_⟩
          simp only [takeVariable, hvariable, hrole, hfalse] at hq
          cases hq
          rfl
        · left
          intro p q hq
          simp [takeVariable, hvariable, hrole] at hq
    | counter add | stop why =>
      left
      intro p q hq
      simp only [takeVariable, hvariable, hrole] at hq
      cases hq
      rfl

/-- A variable that gives a flag leaves everything else as it is. -/
theorem takeVariable_flag (ha : a.IsTidy) (hflag : a.name ∈ flagNames)
    (hq : takeVariable env p a = .ok q) : q.withoutFlags = p.withoutFlags := by
  rcases takeVariable_eq_ok env a with hsame | ⟨set, hset, hput⟩
  · rw [hsame p q hq]
  · rw [hput p q hq, put_withoutFlags ha hset, if_pos hflag]

/-- A variable gives the same to what is the same but for flags. -/
theorem takeVariable_congr (ha : a.IsTidy) (h : p.withoutFlags = p'.withoutFlags)
    (hq : takeVariable env p a = .ok q) (hq' : takeVariable env p' a = .ok q') :
    q.withoutFlags = q'.withoutFlags := by
  rcases takeVariable_eq_ok env a with hsame | ⟨set, hset, hput⟩
  · rw [hsame p q hq, hsame p' q' hq', h]
  · rw [hput p q hq, hput p' q' hq']
    exact put_congr ha hset h

/-- What the variables of arguments give that are not taken. -/
def takeVariables (env : Environment) (taken : List String) (as : List Argument) (p : Progress) :
    Except Stop Progress :=
  (as.filter fun a => !taken.contains a.name).foldlM (takeVariable env) p

/-- Variables are taken in the order of the arguments that they give. The first of them is passed
over if its argument has been taken already. -/
theorem takeVariables_cons {taken : List String} {as : List Argument}
    (hq : takeVariables env taken (a :: as) p = .ok q) :
    ∃ s, takeVariables env taken as s = .ok q ∧
      (a.name ∈ taken ∧ s = p ∨ a.name ∉ taken ∧ takeVariable env p a = .ok s) := by
  unfold takeVariables at hq
  by_cases htaken : a.name ∈ taken
  · rw [List.filter_cons_of_neg (by simpa using htaken)] at hq
    exact ⟨p, hq, .inl ⟨htaken, rfl⟩⟩
  · rw [List.filter_cons_of_pos (by simpa using htaken), List.foldlM_cons] at hq
    obtain ⟨s, hs, hq⟩ := except_bind_eq_ok.1 hq
    exact ⟨s, hq, .inr ⟨htaken, hs⟩⟩

/-- Variables give the same behind words that are the same but for flags. Words that differ in flags
may let different variables count, but only those that give flags. The induction is on the
arguments. -/
theorem takeVariables_congr {taken taken' : List String} {as : List Argument}
    (has : ∀ a ∈ as, a.IsTidy) (htaken : ∀ name, name ∉ flagNames → (name ∈ taken ↔ name ∈ taken'))
    (h : p.withoutFlags = p'.withoutFlags) (hq : takeVariables env taken as p = .ok q)
    (hq' : takeVariables env taken' as p' = .ok q') : q.withoutFlags = q'.withoutFlags := by
  induction as generalizing p p' with
  | nil =>
    cases hq
    cases hq'
    exact h
  | cons a as ih =>
    have ha := has a List.mem_cons_self
    obtain ⟨s, hq, hs⟩ := takeVariables_cons hq
    obtain ⟨s', hq', hs'⟩ := takeVariables_cons hq'
    refine ih (fun b hb => has b (List.mem_cons_of_mem _ hb)) ?_ hq hq'
    -- A flag may be taken in one run and not in the other, but what it sets is not compared. Any
    -- other argument is taken in both or in neither.
    by_cases hflag : a.name ∈ flagNames
    · have hleft : s.withoutFlags = p.withoutFlags := by
        rcases hs with ⟨-, rfl⟩ | ⟨-, hs⟩
        · rfl
        · exact takeVariable_flag ha hflag hs
      have hright : s'.withoutFlags = p'.withoutFlags := by
        rcases hs' with ⟨-, rfl⟩ | ⟨-, hs'⟩
        · rfl
        · exact takeVariable_flag ha hflag hs'
      rw [hleft, hright, h]
    · have hiff := htaken a.name hflag
      rcases hs with ⟨hin, rfl⟩ | ⟨hout, hs⟩
      · rcases hs' with ⟨-, rfl⟩ | ⟨hout', -⟩
        · exact h
        · exact absurd (hiff.1 hin) hout'
      · rcases hs' with ⟨hin', -⟩ | ⟨-, hs'⟩
        · exact absurd (hiff.2 hin') hout
        · exact takeVariable_congr ha h hs hs'

/-- So the variables of a whole level give the same, but for flags. Which of them are read depends
on the arguments that have been taken, and those are compared without flags, too. -/
theorem readVariables_congr (h : p.withoutFlags = p'.withoutFlags)
    (hq : readVariables env l p.taken = .ok q) (hq' : readVariables env l p'.taken = .ok q') :
    q.given.withoutFlags = q'.given.withoutFlags := by
  have hfilter : p.taken.filter (· ∉ flagNames) = p'.taken.filter (· ∉ flagNames) :=
    congrArg taken h
  have htaken : ∀ name, name ∉ flagNames → (name ∈ p.taken ↔ name ∈ p'.taken) := by
    intro name hflag
    have hmem := congrArg (name ∈ ·) hfilter
    simpa [List.mem_filter, hflag] using hmem
  have hvariables := takeVariables_congr (fun a => Level.isTidy_of_mem_arguments) htaken rfl hq hq'
  exact congrArg given hvariables

end Progress

/-! ### Readings -/

/-- Forgetting flags has nothing to do with which words come first. -/
@[simp]
theorem Given.laidOver_withoutFlags (upper lower : Given) :
    (upper.laidOver lower).withoutFlags = upper.withoutFlags.laidOver lower.withoutFlags := rfl

/-- Forgetting flags before options are made of what is given is forgetting them afterwards. -/
theorem Given.options_withoutFlags (g : Given) :
    g.options.withoutFlags = g.withoutFlags.options := rfl

/-- No command is chosen by a flag, so two lines that differ in flags run the same command. -/
theorem Level.command?_withoutFlags (l : Level) (g : Given) :
    l.command? g.withoutFlags = l.command? g := by
  cases l <;> rfl

/-- A reading without flags. -/
def Reading.withoutFlags (r : Reading) : Reading where
  words := r.words.withoutFlags
  environment := r.environment.withoutFlags
  command := r.command

variable {r r' below below' : Reading}

/-- The level at which the words end has all that its command needs. Its words count more than its
variables. -/
theorem closeLast_eq_ok (hr : closeLast env l p = .ok r) :
    ∃ q v, p.settle = .ok q ∧ Progress.readVariables env l q.taken = .ok v ∧
      l.command? (q.given.laidOver v.given) = some r.command ∧ r.words = q.given ∧
      r.environment = v.given := by
  obtain ⟨q, hq, hr⟩ := except_bind_eq_ok.1 hr
  obtain ⟨v, hv, hr⟩ := except_bind_eq_ok.1 hr
  split at hr
  · rename_i command hcommand
    cases hr
    exact ⟨q, v, hq, hv, hcommand, rfl, rfl⟩
  · split at hr
    · cases hr
    · split at hr <;> cases hr

namespace Progress.Matches

/-- A level above others adds what it is given, and leaves the command to those below it. So two
lines that agree below and at this level agree, when flags are left out of what both add. -/
theorem closeAbove (h : p.Matches p') (hbelow : below.withoutFlags = below'.withoutFlags)
    (hr : closeAbove env l p below = .ok r) (hr' : closeAbove env l p' below' = .ok r') :
    r.withoutFlags = r'.withoutFlags := by
  obtain ⟨q, hq, hr⟩ := except_bind_eq_ok.1 hr
  obtain ⟨v, hv, hr⟩ := except_bind_eq_ok.1 hr
  obtain ⟨q', hq', hr'⟩ := except_bind_eq_ok.1 hr'
  obtain ⟨v', hv', hr'⟩ := except_bind_eq_ok.1 hr'
  cases hr
  cases hr'
  have hsame := h.settles q q' hq hq'
  have hgiven : q.given.withoutFlags = q'.given.withoutFlags := congrArg given hsame
  have hvariables := readVariables_congr hsame hv hv'
  -- The parts of the reading below that are compared, each of which is laid over what is above.
  have hwords := congrArg Reading.words hbelow
  have henvironment := congrArg Reading.environment hbelow
  have hcommand := congrArg Reading.command hbelow
  unfold Reading.withoutFlags at hwords henvironment hcommand ⊢
  dsimp only at hwords henvironment hcommand ⊢
  rw [Given.laidOver_withoutFlags, Given.laidOver_withoutFlags, Given.laidOver_withoutFlags,
    Given.laidOver_withoutFlags, hgiven, hvariables, hwords, henvironment, hcommand]

/-- The level at which the words end gives the same command, and the same arguments but for
flags. -/
theorem closeLast (h : p.Matches p') (hr : closeLast env l p = .ok r)
    (hr' : closeLast env l p' = .ok r') : r.withoutFlags = r'.withoutFlags := by
  obtain ⟨q, v, hq, hv, hcommand, hwords, henvironment⟩ := closeLast_eq_ok hr
  obtain ⟨q', v', hq', hv', hcommand', hwords', henvironment'⟩ := closeLast_eq_ok hr'
  have hsame := h.settles q q' hq hq'
  have hgiven : q.given.withoutFlags = q'.given.withoutFlags := congrArg given hsame
  have hvariables := readVariables_congr hsame hv hv'
  have hsome : some r.command = some r'.command := by
    rw [← hcommand, ← hcommand', ← Level.command?_withoutFlags, Given.laidOver_withoutFlags, hgiven,
      hvariables, ← Given.laidOver_withoutFlags, Level.command?_withoutFlags]
  unfold Reading.withoutFlags
  rw [hwords, hwords', henvironment, henvironment', hgiven, hvariables, Option.some.inj hsome]

/-- A level of which nothing is read is like itself. It is where every comparison of two readings
starts. -/
theorem start (l : Level) : (Progress.start l).Matches (.start l) :=
  of_eq rfl rfl rfl fun _ => Level.isTidy_of_mem_positions

/-- A word in front of others names a command, or it is read at its level. The two readings decide
alike, as they agree on whether a value is waited for. -/
theorem readWords_cons (h : p.Matches p') (hr : readWords env l p (word :: words) = .ok r)
    (hr' : readWords env l p' (word :: words') = .ok r') :
    (∃ l' below below', readWords env l' (.start l') words = .ok below ∧
      readWords env l' (.start l') words' = .ok below' ∧
      (below.withoutFlags = below'.withoutFlags → r.withoutFlags = r'.withoutFlags)) ∨
    ∃ q q', p.readWord l word = .ok q ∧ q.Matches q' ∧ readWords env l q words = .ok r ∧
      readWords env l q' words' = .ok r' := by
  unfold readWords at hr hr'
  rw [← h.literal, ← h.awaits] at hr'
  -- A word that names a command starts a new level in both runs, and else it is read in both.
  split at hr
  · rename_i hbelow
    rw [if_pos hbelow] at hr'
    cases hlookup : l.commands.lookup word with
    | none =>
      rw [hlookup] at hr
      cases hr
    | some l' =>
      rw [hlookup] at hr hr'
      obtain ⟨below, hread, hr⟩ := except_bind_eq_ok.1 hr
      obtain ⟨below', hread', hr'⟩ := except_bind_eq_ok.1 hr'
      exact .inl ⟨l', below, below', hread, hread', fun hsame => h.closeAbove hsame hr hr'⟩
  · rename_i hbelow
    rw [if_neg hbelow] at hr'
    obtain ⟨q, hq, hr⟩ := except_bind_eq_ok.1 hr
    obtain ⟨q', hq', hr'⟩ := except_bind_eq_ok.1 hr'
    exact .inr ⟨q, q', hq, h.readWord hq hq', hr, hr'⟩

/-- Readings of the same words are the same but for flags if what they start from is. The induction
is on the words. -/
theorem readWords_same (h : p.Matches p') (hr : readWords env l p words = .ok r)
    (hr' : readWords env l p' words = .ok r') : r.withoutFlags = r'.withoutFlags := by
  induction words generalizing l p p' r r' with
  | nil => exact h.closeLast hr hr'
  | cons word words ih =>
    rcases h.readWords_cons hr hr' with
      ⟨l', below, below', hread, hread', hclose⟩ | ⟨q, q', -, hmatches, hr, hr'⟩
    · exact hclose (ih (start l') hread hread')
    · exact ih hmatches hr hr'

end Progress.Matches

namespace Progress

/-! ### Two dashes -/

/-- A mark does not end the arguments: only two dashes do. So whether a word stands for itself is
told by the words in front of it, with flags or without. -/
theorem takeMark_literal (hq : p.takeMark a = .ok q) : q.literal = p.literal := by
  obtain ⟨s, hs, hq⟩ := except_bind_eq_ok.1 hq
  have hliteral := (settle_keeps hs).2.1
  split at hq
  · split at hq
    · cases hq
    · cases hq
      exact hliteral
  · cases hq
    exact hliteral
  · cases hq
  · cases hq
    exact hliteral

/-- Nor does an argument with its value in the same word. -/
theorem takeAttached_literal (hq : p.takeAttached a text = .ok q) : q.literal = p.literal := by
  unfold takeAttached at hq
  split at hq
  · obtain ⟨s, hs, hq⟩ := except_bind_eq_ok.1 hq
    obtain ⟨take, set, -, -, rfl⟩ := takeValue_eq_ok hq
    exact (settle_keeps hs).2.1
  · cases hq

/-- Nor does a name, which is one of these two or fails. -/
theorem readName_literal {name : List Char} (hq : p.readName l name = .ok q) :
    q.literal = p.literal := by
  rcases readName_cases l name with ⟨why, hwhy⟩ | ⟨a, -, hmark | ⟨text, hattached⟩⟩
  · cases (hwhy p).symm.trans hq
  · exact takeMark_literal (hmark p ▸ hq)
  · exact takeAttached_literal (hattached p ▸ hq)

/-- Nor do letters, each of which is one of these two. The induction is on them. -/
theorem readLetters_literal {letters : List Char} (hq : p.readLetters l letters = .ok q) :
    q.literal = p.literal := by
  induction letters generalizing p with
  | nil =>
    cases hq
    rfl
  | cons x letters ih =>
    rcases readLetters_cases l x letters with
      ⟨why, hwhy⟩ | ⟨a, -, hmark | ⟨text, hattached⟩ | hmark⟩
    · cases (hwhy p).symm.trans hq
    · exact takeMark_literal (hmark p ▸ hq)
    · exact takeAttached_literal (hattached p ▸ hq)
    · obtain ⟨s, hs, hq⟩ := except_bind_eq_ok.1 (hmark p ▸ hq)
      exact (ih hq).trans (takeMark_literal hs)

/-- Only two dashes end the arguments. Behind them a word that looks like a flag is no flag, so they
are left out of `SameButFlags`. -/
theorem readWord_literal (hliteral : p.literal = false) (hword : word ≠ "--")
    (hq : p.readWord l word = .ok q) : q.literal = false := by
  -- A position leaves the mark as it is, as does all that is read without two dashes.
  have hposition (hq : p.readPosition l word = .ok q) : q.literal = p.literal := by
    unfold readPosition at hq
    split at hq
    · obtain ⟨s, hs, hq⟩ := except_bind_eq_ok.1 hq
      cases hq
      exact (settle_keeps hs).2.1
    · split at hq <;> cases hq
  rw [← hliteral]
  unfold readWord at hq
  rw [if_neg (by simp [hliteral])] at hq
  split at hq
  · rename_i hdashes
    exact absurd (String.toList_inj.1 hdashes) hword
  · exact readName_literal hq
  · exact readLetters_literal hq
  · split at hq
    · cases hq
      rfl
    · exact hposition hq

end Progress

/-! ### Words that are the same but for flags -/

/-- Words that are the same but for flags. Behind two dashes there are no flags. -/
inductive SameButFlags : List String → List String → Prop
  | refl (words : List String) : SameButFlags words words
  | word {word : String} {words words' : List String} (flags : word ≠ "--")
    (rest : SameButFlags words words') : SameButFlags (word :: words) (word :: words')
  | left {flag words words' : List String} (isFlag : IsFlag flag)
    (rest : SameButFlags words words') : SameButFlags (flag ++ words) words'
  | right {flag words words' : List String} (isFlag : IsFlag flag)
    (rest : SameButFlags words words') : SameButFlags words (flag ++ words')

/-- Words that are the same but for flags are read the same but for flags. The induction is on how
they are the same: flags on either side are skipped, and a common word is read on both sides. -/
theorem Progress.Matches.readWords (hwords : SameButFlags words words') (h : p.Matches p')
    (hliteral : p.literal = false) (hr : readWords env l p words = .ok r)
    (hr' : readWords env l p' words' = .ok r') : r.withoutFlags = r'.withoutFlags := by
  induction hwords generalizing l p p' r r' with
  | refl words => exact h.readWords_same hr hr'
  | word hword rest ih =>
    rcases h.readWords_cons hr hr' with
      ⟨l', below, below', hread, hread', hclose⟩ | ⟨q, q', hq, hmatches, hr, hr'⟩
    · exact hclose (ih (.start l') rfl hread hread')
    · exact ih hmatches (readWord_literal hliteral hword hq) hr hr'
  | left hflag rest ih =>
    obtain ⟨q, hq, hr⟩ := h.left hliteral hflag hr
    exact ih hq (hq.literal.trans (h.literal ▸ hliteral)) hr hr'
  | right hflag rest ih =>
    obtain ⟨q, hq, hr'⟩ := h.symm.left (h.literal ▸ hliteral) hflag hr'
    exact ih hq.symm hliteral hr hr'

/-- Words that are the same but for flags ask for the same, but for flags. At the start nothing has
been read, so there is nothing to tell the two apart. -/
theorem read_sameButFlags {args args' : List String} {i i' : Invocation}
    (hargs : SameButFlags args args') (hi : Invocation.read env args = .ok i)
    (hi' : Invocation.read env args' = .ok i') :
    i.command = i'.command ∧ i.options.withoutFlags = i'.options.withoutFlags := by
  obtain ⟨r, hr, hi⟩ := except_bind_eq_ok.1 hi
  obtain ⟨r', hr', hi'⟩ := except_bind_eq_ok.1 hi'
  cases hi
  cases hi'
  have hsame := Progress.Matches.readWords hargs (.start .root) rfl hr hr'
  have hwords : r.words.withoutFlags = r'.words.withoutFlags := congrArg Reading.words hsame
  have henvironment : r.environment.withoutFlags = r'.environment.withoutFlags :=
    congrArg Reading.environment hsame
  have hcommand := congrArg Reading.command hsame
  refine ⟨hcommand, ?_⟩
  rw [Given.options_withoutFlags, Given.options_withoutFlags, Given.laidOver_withoutFlags, hwords,
    henvironment, Given.laidOver_withoutFlags]

end DeviceRegistry.CommandLine
