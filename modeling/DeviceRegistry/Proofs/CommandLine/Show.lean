import DeviceRegistry.Proofs.CommandLine.Payload
import DeviceRegistry.Proofs.CommandLine.Variables
import DeviceRegistry.Proofs.Settings.Passwords

/-!
# `DeviceRegistry.Proofs.CommandLine.Show`: passwords are not shown

Two runs that show the settings report the same when nothing but passwords tells them apart: those
of profiles, or the variable for passwords. No argument can be given by this variable, so that both
runs read the same words. Main statements:

* `read_eq_of_agree`: the variable for passwords does not matter for arguments.
* `settingsText_eq`: what is shown of settings has no passwords.
* `show_ignores_passwords`: runs that show the settings do not tell passwords apart.
-/

set_option autoImplicit false

namespace DeviceRegistry.CommandLine

open DeviceRegistry.Settings (Environment passwordVariable)

variable {env env' : Environment}

/-! ### Arguments -/

/-- Variables are the same but for the one for passwords. -/
def Agree (env env' : Environment) : Prop :=
  (env.filter fun x => x.1 ≠ passwordVariable) = env'.filter fun x => x.1 ≠ passwordVariable

/-- No argument is given by the variable for passwords, so that all arguments are found alike. -/
theorem Agree.foundAlike (h : Agree env env') : FoundAlike env env' := by
  intro name hname
  have hkept : decide (name ≠ passwordVariable) = true := by
    revert name
    decide
  rw [← lookup_filter (· ≠ passwordVariable) hkept env,
    ← lookup_filter (· ≠ passwordVariable) hkept env']
  exact congrArg (List.lookup name) h

/-- The variable for passwords does not matter for arguments, so both runs do what their common
command does. -/
theorem read_eq_of_agree (h : Agree env env') (args : List String) :
    Invocation.read env args = Invocation.read env' args :=
  read_eq_of_foundAlike h.foundAlike args

/-! ### Settings -/

variable {s s' : Settings}

/-- Settings that differ in passwords only are shown alike: as a file, and as a document. -/
theorem shown_eq (h : s.withoutPasswords = s'.withoutPasswords) :
    s.toToml = s'.toToml ∧ s.document = s'.document := by
  rw [← s.toToml_withoutPasswords, ← s.document_withoutPasswords, h]
  exact ⟨s'.toToml_withoutPasswords, s'.document_withoutPasswords⟩

/-- What a command shows of settings has no passwords, nor does its format depend on any. -/
theorem settingsText_eq (h : s.withoutPasswords = s'.withoutPasswords) (o : Options) :
    settingsText (o.format s) s = settingsText (o.format s') s' := by
  obtain ⟨htoml, hdocument⟩ := shown_eq h
  have hwithout : ∀ s : Settings, o.format s.withoutPasswords = o.format s := fun _ => rfl
  have hformat : o.format s = o.format s' := by
    rw [← hwithout s, h, hwithout s']
  unfold settingsText
  rw [hformat, htoml, hdocument]

variable {w w' : Surroundings}

/-- The settings of two places differ in passwords only when files and variables do. If they cannot
be loaded in one place they cannot be loaded in the other, and count as none in both. -/
theorem settings_withoutPasswords
    (hfile : (Settings.ofFile w.settingsText).map Settings.Value.withoutPasswords =
      (Settings.ofFile w'.settingsText).map Settings.Value.withoutPasswords)
    (henv : Agree w.env w'.env) :
    w.settings.withoutPasswords = w'.settings.withoutPasswords := by
  have hload := Settings.load_withoutPasswords hfile henv
  unfold Surroundings.settings
  cases hw : Settings.load w.settingsText w.env with
  | error e =>
    -- Settings that cannot be loaded count as none, in both places.
    cases hw' : Settings.load w'.settingsText w'.env with
    | error e' => rfl
    | ok s' => rw [hw, hw'] at hload; cases hload
  | ok s =>
    cases hw' : Settings.load w'.settingsText w'.env with
    | error e' => rw [hw, hw'] at hload; cases hload
    | ok s' =>
      rw [hw, hw'] at hload
      exact Except.ok.inj hload

/-! ### Runs -/

/-- Runs that show the settings do not tell passwords apart: neither strings that are passwords of
profiles, nor the variable for passwords. Settings that differ in the passwords of their profiles
have the same texts. -/
theorem show_ignores_passwords {args : List String} (wire wire' : Client.Wire)
    (hfile : (Settings.ofFile w.settingsText).map Settings.Value.withoutPasswords =
      (Settings.ofFile w'.settingsText).map Settings.Value.withoutPasswords)
    (henv : (w.env.filter fun x => x.1 ≠ passwordVariable) =
      w'.env.filter fun x => x.1 ≠ passwordVariable)
    (hshow : ∀ i, Invocation.read w.env args = .ok i → i.command = .showSettings) :
    (run w args wire).1 = (run w' args wire').1 ∧
    ∀ s s' : Settings, s.withoutPasswords = s'.withoutPasswords →
      s.toToml = s'.toToml ∧ ∀ f : Format, f.render s.document = f.render s'.document := by
  -- The command line is read without the password, and so are the settings that it shows.
  constructor
  · have hread : Invocation.read w.env args = Invocation.read w'.env args :=
      read_eq_of_agree henv args
    cases hi : Invocation.read w.env args with
    | error why =>
      rw [run, run, ← hread, hi]
      rfl
    | ok i =>
      have hcommand := hshow i hi
      have htext := settingsText_eq (settings_withoutPasswords hfile henv) i.options
      rw [run_eq hi, run_eq (hread.symm.trans hi), hcommand]
      exact congrArg (Report.of i.options.quiet) htext
  · intro s s' h
    obtain ⟨htoml, hdocument⟩ := shown_eq h
    exact ⟨htoml, fun f => congrArg f.render hdocument⟩

/-- The text of settings with one profile, which has a password. -/
def guardedText (password : String) : String :=
  "[profiles.p]\nregistry = \"http://h\"\npassword = \"" ++ password ++ "\"\n"

/-- The tree of such settings. -/
def guardedTree (password : String) : Settings.Value :=
  .table [("profiles", .table [("p",
    .table [("password", .string password), ("registry", .string "http://h")])])]

/-- A place with such settings. -/
def guarded (password : String) (env : Environment) : Surroundings where
  env := env
  settingsPath := "config.toml"
  settingsText := some (guardedText password)
  files _ := .error "No such file or directory (os error 2)"

/-- The texts of a tree with one profile of two members. -/
def profileTexts : Except Settings.LoadError Settings.Value → List String
  | .ok (.table [(k, .table [(p, .table [(a, .string s), (b, .string t)])])]) => [k, p, a, s, b, t]
  | _ => []

/-- The tree of the settings is known from its texts, which can be computed where trees cannot be
compared. -/
theorem eq_of_profileTexts {v : Except Settings.LoadError Settings.Value} {password : String}
    (h : profileTexts v = ["profiles", "p", "password", password, "registry", "http://h"]) :
    v = .ok (guardedTree password) := by
  unfold profileTexts at h
  split at h
  · cases h
    rfl
  · cases h

/-- Two profiles with different passwords look the same, whether the variable is set or not. Both
runs load their passwords, as the second part shows, so there is something that could be printed. -/
theorem show_ignores_passwords_guarded :
    let words := ["config", "show"]
    let w := guarded "a" []
    let w' := guarded "b" [("DEVREG_PASSWORD", "c")]
    (run w words ⟨[], []⟩).1 = (run w' words ⟨[], []⟩).1 ∧
    w.settings.profiles.map (fun m => m.2.password) = [some "a"] ∧
    w'.settings.profiles.map (fun m => m.2.password) = [some "b"] := by
  intro words w w'
  -- The two trees are found by evaluation, since the texts are fixed.
  have hfile : ∀ password ∈ ["a", "b"],
      Settings.ofFile (some (guardedText password)) = .ok (guardedTree password) := by
    intro password hmem
    refine eq_of_profileTexts ?_
    have hall : ∀ password ∈ ["a", "b"], profileTexts (Settings.ofFile
        (some (guardedText password))) =
          ["profiles", "p", "password", password, "registry", "http://h"] := by decide +kernel
    exact hall password hmem
  have henv : (w.env.filter fun x => x.1 ≠ passwordVariable) =
      w'.env.filter fun x => x.1 ≠ passwordVariable := by decide +kernel
  have hread : Invocation.read w.env words = .ok ⟨{}, .showSettings⟩ := rfl
  refine ⟨(show_ignores_passwords _ _ ?_ henv ?_).1, by decide +kernel, by decide +kernel⟩
  · have ha : Settings.ofFile w.settingsText = .ok (guardedTree "a") := hfile "a" (by simp)
    have hb : Settings.ofFile w'.settingsText = .ok (guardedTree "b") := hfile "b" (by simp)
    rw [ha, hb]
    rfl
  · intro i hi
    rw [hread] at hi
    cases hi
    rfl

end DeviceRegistry.CommandLine
