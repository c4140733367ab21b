import DeviceRegistry.CommandLine.Reader

/-!
# `DeviceRegistry.Proofs.CommandLine.Variables`: which variables arguments come from

An argument that no word gives may come from a variable. There are six such variables, whatever the
command, so that all others do not matter for what arguments are read as. Main statements:

* `envName_mem_argumentVariables`: the variables of the arguments of every level.
* `read_eq_of_foundAlike`: arguments are read alike where these variables are found alike.
-/

set_option autoImplicit false

namespace DeviceRegistry.CommandLine

open DeviceRegistry.Settings (Environment)

variable {env env' : Environment}

/-! ### Variables -/

/-- A variable that is kept is found as before. By induction on the variables, of which only the
first with this name counts. -/
theorem lookup_filter (keep : String → Bool) {name : String} (hname : keep name = true)
    (env : Environment) : (env.filter fun x => keep x.1).lookup name = env.lookup name := by
  induction env with
  | nil => rfl
  | cons x env ih =>
    obtain ⟨k, text⟩ := x
    cases hk : keep k with
    | false =>
      have hne : (name == k) = false := beq_eq_false_iff_ne.2 fun he => by
        rw [← he, hname] at hk
        cases hk
      rw [List.filter_cons_of_neg (by simpa using hk), ih, List.lookup_cons, hne]
    | true =>
      rw [List.filter_cons_of_pos (by simpa using hk), List.lookup_cons, List.lookup_cons, ih]

/-- The variables that may give an argument. -/
def argumentVariables : List String :=
  ["DEVREG_PROFILE", "DEVREG_REGISTRY", "DEVREG_OUTPUT", "DEVREG_INSECURE", "DEVREG_TIMEOUT",
    "DEVREG_TENANT"]

/-- The variables that may give an argument are found alike. -/
def FoundAlike (env env' : Environment) : Prop :=
  ∀ name ∈ argumentVariables, env.lookup name = env'.lookup name

/-! ### Arguments -/

/-- All variables of arguments are in the list. The levels share their arguments, and the ones with
most of them decide. -/
theorem envName_mem_argumentVariables {l : Level} {a : Argument} (ha : a ∈ l.arguments) :
    ∀ name ∈ a.envName, name ∈ argumentVariables := by
  have hshared : ∀ a ∈ sharedArguments, ∀ name ∈ a.envName, name ∈ argumentVariables := by decide
  have hall : ∀ a ∈ Level.setCredentials.arguments, ∀ name ∈ a.envName,
      name ∈ argumentVariables := by decide
  cases l with
  | setCredentials => exact hall a ha
  | getCredentials => exact hall a (List.mem_cons_of_mem _ (List.mem_cons_of_mem _ ha))
  | _ => exact hshared a ha

/-- An argument finds the same value where its variable is found alike. Only the variables of
arguments are asked for, so places that agree on those cannot be told apart here. -/
theorem takeVariable_eq (h : FoundAlike env env') {a : Argument}
    (ha : ∀ name ∈ a.envName, name ∈ argumentVariables) (p : Progress) :
    p.takeVariable env a = p.takeVariable env' a := by
  have hfound : (a.envName.bind fun name => env.lookup name) =
      a.envName.bind fun name => env'.lookup name := by
    cases hname : a.envName with
    | none => rfl
    | some name => exact h name (ha name hname)
  unfold Progress.takeVariable
  rw [hfound]

/-- So do all arguments of a level, which are given by variables one after the other. -/
theorem readVariables_eq (h : FoundAlike env env') (l : Level) (taken : List String) :
    Progress.readVariables env l taken = Progress.readVariables env' l taken := by
  have hall : ∀ (as : List Argument), (∀ a ∈ as, ∀ name ∈ a.envName, name ∈ argumentVariables) →
      ∀ p, as.foldlM (Progress.takeVariable env) p = as.foldlM (Progress.takeVariable env') p := by
    intro as
    induction as with
    | nil => exact fun _ _ => rfl
    | cons a as ih =>
      intro has p
      rw [List.foldlM_cons, List.foldlM_cons, takeVariable_eq h (has a List.mem_cons_self)]
      exact congrArg _ (funext (ih fun b hb => has b (List.mem_cons_of_mem a hb)))
  exact hall _ (fun a ha => envName_mem_argumentVariables (List.mem_filter.1 ha).1) _

/-- Words are read alike where variables are found alike. Along the words; variables are read where
a level is closed. -/
theorem readWords_eq (h : FoundAlike env env') (words : List String) (l : Level) (p : Progress) :
    readWords env l p words = readWords env' l p words := by
  -- Along the words; variables are read where a level is closed.
  induction words generalizing l p with
  | nil =>
    unfold readWords closeLast
    simp only [readVariables_eq h]
  | cons word words ih =>
    unfold readWords closeAbove
    simp only [ih, readVariables_eq h]

/-- Arguments are read alike where the variables that may give them are found alike. It makes all
other variables irrelevant, those with passwords as well as those that settings are laid over
with. -/
theorem read_eq_of_foundAlike (h : FoundAlike env env') (args : List String) :
    Invocation.read env args = Invocation.read env' args := by
  unfold Invocation.read
  rw [readWords_eq h]

end DeviceRegistry.CommandLine
