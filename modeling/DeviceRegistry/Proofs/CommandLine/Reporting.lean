import DeviceRegistry.Proofs.CommandLine.Payload
import DeviceRegistry.Proofs.CommandLine.SameButFlags
import DeviceRegistry.Proofs.Json.Reader

/-!
# `DeviceRegistry.Proofs.CommandLine.Reporting`: flags change only what is printed

A command about credentials or a device does something that has nothing to do with flags, and turns
what came of it into a text. No such text is empty, so printing tells whether the command succeeded,
unless it is quiet. Main statements:

* `Format.render_ne_empty`: no format writes nothing.
* `Command.exists_done`: what a command does, apart from flags.
* `flags_change_only_output`: runs that differ in flags send the same and end the same.
-/

set_option autoImplicit false

namespace DeviceRegistry

open DeviceRegistry.Json (Value)

/-! ### No report is empty -/

namespace Yaml

variable {front : String} {ls rest : List Line} {blanks : Nat}

/-- The first of some lines has a text. -/
def StartsWithText (ls : List Line) : Prop := ∃ first rest, ls = first :: rest ∧ first.text ≠ ""

/-- More lines may follow, as only the first one is asked about. -/
theorem StartsWithText.append (h : StartsWithText ls) : StartsWithText (ls ++ rest) := by
  obtain ⟨first, rest', rfl, hfirst⟩ := h
  exact ⟨first, rest' ++ rest, rfl, hfirst⟩

/-- What is put in front of some lines begins the first of them, so it is enough that it has a
text. -/
theorem startsWithText_attach (h : front ≠ "") : StartsWithText (attach front ls) := by
  cases ls with
  | nil => exact ⟨_, _, rfl, h⟩
  | cons first rest =>
    exact ⟨_, _, rfl, fun hempty => h (String.append_eq_empty_iff.1 hempty).1⟩

/-- A member starts with its name. What follows the name stands in the same line or below, but never
takes it away. -/
theorem startsWithText_memberLines (name : String) (value : List Line) (below : Option Nat) :
    StartsWithText (memberLines blanks name value below) := by
  have hcolon {mark : String} (hmark : mark ≠ "") (front : String) : front ++ mark ≠ "" :=
    fun hempty => hmark (String.append_eq_empty_iff.1 hempty).2
  unfold memberLines
  split
  · cases below with
    | none => exact startsWithText_attach (hcolon (by decide) _)
    | some blanks' => exact ⟨_, _, rfl, hcolon (by decide) _⟩
  · exact (startsWithText_attach (by decide)).append

/-- Items start with their dash. With the statement on members below, this shows that a rendered
document starts with a text and so is never empty. -/
theorem startsWithText_itemLines {items : List Value} (h : items ≠ []) :
    StartsWithText (itemLines blanks items) := by
  match items with
  | [v] =>
    rw [itemLines]
    exact startsWithText_attach (by decide)
  | v :: w :: r =>
    rw [itemLines]
    · exact (startsWithText_attach (by decide)).append
    · exact nofun

/-- Members start with the name of the first one, whatever its value is, since the value of a member
is written behind its name or in the lines below it. -/
theorem startsWithText_membersLines {members : List (String × Value)} (h : members ≠ []) :
    StartsWithText (membersLines blanks members) := by
  obtain ⟨⟨name, v⟩, r, rfl⟩ := List.exists_cons_of_ne_nil h
  unfold membersLines
  dsimp only
  -- Whatever the value is, its lines stand behind those of the name.
  split
  · repeat' split
    all_goals exact startsWithText_memberLines _ _ _
  · refine StartsWithText.append ?_
    repeat' split
    all_goals exact startsWithText_memberLines _ _ _

/-- Arrays and objects are never written as nothing. Empty ones are written as a pair of brackets,
and all others have a first line. -/
theorem render_ne_empty {v : Value} (h : ¬ v.IsScalar) : render v ≠ "" := by
  -- The first line has a text of its own, whether or not there is anything in the list or the
  -- object.
  have hlines : StartsWithText (lines 0 v) := by
    cases v with
    | array items =>
      rw [lines]
      split
      · exact ⟨_, _, rfl, by decide⟩
      · rename_i hitems
        exact startsWithText_itemLines (by simpa using hitems)
    | object members =>
      rw [lines]
      split
      · exact ⟨_, _, rfl, by decide⟩
      · rename_i hmembers
        exact startsWithText_membersLines (by simpa using hmembers)
    | _ => exact absurd trivial h
  obtain ⟨first, rest, hrest, hfirst⟩ := hlines
  unfold render
  rw [hrest, List.map_cons, String.join_cons]
  intro hempty
  have htext := (String.append_eq_empty_iff.1 hempty).1
  split at htext
  · exact hfirst (String.append_eq_empty_iff.1 htext).1
  · exact hfirst htext

end Yaml

/-- No format writes an array or an object as nothing. In JSON they have brackets, and the other
formats have a statement of their own. -/
theorem Format.render_ne_empty (f : Format) {v : Value} (h : ¬ v.IsScalar) : f.render v ≠ "" := by
  have hchars {s : List Char} (hs : s ≠ []) : String.ofList s ≠ "" :=
    fun hempty => hs (String.ofList_eq_empty_iff.1 hempty)
  -- Both forms of JSON start with a bracket.
  have hpretty : v.renderPretty ≠ "" := by
    refine hchars ?_
    match v with
    | .array [] | .array (_ :: _) | .object [] | .object (_ :: _) =>
      rw [Json.Value.prettyChars]
      exact List.cons_ne_nil _ _
    | .null | .bool _ | .number _ | .string _ => exact absurd trivial h
  cases f with
  | table | json => exact hpretty
  | yaml => exact Yaml.render_ne_empty h
  | compactJson =>
    refine hchars ?_
    cases v with
    | array items | object members =>
      rw [Json.Value.chars]
      exact List.cons_ne_nil _ _
    | _ => exact absurd trivial h

/-- Grids have a rule at the top, even those without columns. So a report in a table prints
something also where there is nothing to list. -/
theorem Grid.text_ne_empty (g : Grid) : g.text ≠ "" := by
  unfold text ruleText
  dsimp only
  intro hempty
  rw [List.cons_append, String.intercalate_cons_of_ne_nil] at hempty
  · have hrule := (String.append_eq_empty_iff.1 (String.append_eq_empty_iff.1 hempty).1).1
    have hleft := (String.append_eq_empty_iff.1 (String.append_eq_empty_iff.1 hrule).1).1
    revert hleft
    decide
  · exact List.cons_ne_nil _ _

/-- Every format but the table writes the documents of credentials. The table shows only some of
their fields. -/
theorem Credential.report_eq_render {f : Format} (hf : f ≠ .table) (cs : List Credential) :
    report f cs = f.render (.array (cs.map document)) := by
  cases f with
  | table => exact absurd rfl hf
  | json | compactJson | yaml => rfl

/-- Reports on credentials are arrays or grids, and neither is written as nothing. -/
theorem Credential.report_ne_empty (f : Format) (cs : List Credential) : report f cs ≠ "" := by
  by_cases hf : f = .table
  · rw [hf]
    exact (grid cs).text_ne_empty
  · rw [report_eq_render hf]
    exact f.render_ne_empty nofun

/-- Every format but the list of lines writes the document of a device. The lines show the fields by
their own names. -/
theorem Device.report_eq_render {f : Format} (hf : f ≠ .table) (d : Device) :
    report f d = f.render d.document := by
  cases f with
  | table => exact absurd rfl hf
  | json | compactJson | yaml => rfl

/-- Reports on a device are objects or lines, and there is a line for every field. -/
theorem Device.report_ne_empty (f : Format) (d : Device) : report f d ≠ "" := by
  by_cases hf : f = .table
  · rw [hf]
    intro hempty
    unfold report detail at hempty
    dsimp only at hempty
    rw [String.intercalate_cons_of_ne_nil (List.cons_ne_nil _ _)] at hempty
    have hline := (String.append_eq_empty_iff.1 (String.append_eq_empty_iff.1 hempty).1).1
    have hname := (String.append_eq_empty_iff.1 hline).1
    revert hname
    decide
  · rw [report_eq_render hf]
    exact f.render_ne_empty nofun

namespace CommandLine

open DeviceRegistry.Management (Endpoint)

/-- What is shown of fetched credentials ends with their report, with the version in front of it or
without. -/
theorem fetchedText_ne_empty (f : Format) (cs : List Credential) (version : Option String) :
    fetchedText f cs version ≠ "" := by
  unfold fetchedText
  split
  · intro hempty
    have htext := (String.append_eq_empty_iff.1 (String.append_eq_empty_iff.1 hempty).1).1
    exact Credential.report_ne_empty _ _ htext
  · exact Credential.report_ne_empty _ _

/-- That an update was made is told in words, or by an object with the status. In none of the
formats is it told by an empty text, which would be taken for a quiet run. -/
theorem updatedText_ne_empty (f : Format) (status : Status) (version : Option String) :
    updatedText f status version ≠ "" := by
  by_cases hf : f = .table
  · subst hf
    cases version with
    | none =>
      have htext : updatedText .table status none = "Credentials updated" := rfl
      rw [htext]
      decide
    | some v =>
      intro hempty
      have hfront := (String.append_eq_empty_iff.1 (String.append_eq_empty_iff.1 hempty).1).1
      revert hfront
      decide
  -- In every other format what is printed is an object with the status.
  · obtain ⟨members, hmembers⟩ : ∃ members,
        updatedText f status version = f.render (.object members) := by
      cases f with
      | table => exact absurd rfl hf
      | json | compactJson | yaml => exact ⟨_, rfl⟩
    rw [hmembers]
    exact f.render_ne_empty nofun

/-! ### What a command does -/

variable {w : Surroundings} {o : Options} {c : Command} {wire : Client.Wire}

/-- Commands about credentials or a device, not about settings. -/
def Command.HasSubject : Command → Prop
  | .settingsPath | .showSettings => False
  | _ => True

/-- What came of a command, whatever the flags are, and the text that a format has for it. -/
structure Command.Done (w : Surroundings) (o : Options) (c : Command) (wire : Client.Wire)
    (α : Type) where
  result : Except Failure α
  after : Client.Wire
  text : Format → α → String
  text_ne_empty : ∀ f a, text f a ≠ ""
  run_eq : ∀ o' : Options, o'.withoutFlags = o.withoutFlags →
    c.run w o' wire = (result.map (text (o'.format w.settings)), after)

/-- Flags have nothing to do with which registry a command talks to, as the connection is made of
the other options. -/
theorem connect_congr {o' : Options} {s : Settings} {deviceId : String} {tenant : Option String}
    (h : o'.withoutFlags = o.withoutFlags) :
    connect w s o' deviceId tenant = connect w s o deviceId tenant := by
  have hforget (o : Options) :
      connect w s o deviceId tenant = connect w s o.withoutFlags deviceId tenant := rfl
  rw [hforget o', h, ← hforget]

/-- A command that fails before it has anything to report. -/
def Command.Done.failed {f : Failure}
    (h : ∀ o' : Options, o'.withoutFlags = o.withoutFlags → c.run w o' wire = (.error f, wire)) :
    c.Done w o wire Empty where
  result := .error f
  after := wire
  text _ := nofun
  text_ne_empty _ := nofun
  run_eq := h

/-- What a command does has nothing to do with flags. They choose the format of its report, and only
when all else is done: the result and the wire are the same for all formats. -/
theorem Command.exists_done (w : Surroundings) (o : Options) (wire : Client.Wire)
    (hc : c.HasSubject) : ∃ α, Nonempty (c.Done w o wire α) := by
  -- A command that cannot get as far as its result fails in the same way for all flags.
  cases c with
  | settingsPath | showSettings => cases hc
  | validateDevice file =>
    exact ⟨_, ⟨⟨loadDevice w w.settings file, wire, Device.report, Device.report_ne_empty,
      fun o' _ => rfl⟩⟩⟩
  | validateCredentials file =>
    exact ⟨_, ⟨⟨loadCredentials w w.settings file, wire,
      fun f loaded => Credential.report f loaded.2, fun f _ => Credential.report_ne_empty f _,
      fun o' _ => rfl⟩⟩⟩
  | getCredentials deviceId tenant =>
    cases hconnect : connect w w.settings o deviceId tenant with
    | error f =>
      refine ⟨_, ⟨.failed (f := f) fun o' ho' => ?_⟩⟩
      rw [Command.run, connect_congr ho', hconnect]
      rfl
    | ok connected =>
      obtain ⟨endpoint, session⟩ := connected
      let f := endpoint.watched (.read session.tenantId deviceId) wire
      refine ⟨_, ⟨⟨if f.response.status.isSuccess then fetched f.response
        else .error (session.failure none f.response), f.state,
        fun format cs => fetchedText format cs f.response.etag,
        fun format cs => fetchedText_ne_empty format cs _, fun o' ho' => ?_⟩⟩⟩
      rw [run_getCredentials ((connect_congr ho').trans hconnect)]
      split <;> rfl
  | setCredentials deviceId file version tenant =>
    cases hload : loadCredentials w w.settings file with
    | error f =>
      refine ⟨_, ⟨.failed (f := f) fun o' _ => ?_⟩⟩
      rw [Command.run, hload]
      rfl
    | ok loaded =>
      obtain ⟨bytes, cs⟩ := loaded
      cases hconnect : connect w w.settings o deviceId tenant with
      | error f =>
        refine ⟨_, ⟨.failed (f := f) fun o' ho' => ?_⟩⟩
        rw [Command.run, hload]
        dsimp only
        rw [connect_congr ho', hconnect]
        rfl
      | ok connected =>
        obtain ⟨endpoint, session⟩ := connected
        let f := endpoint.watched (.update session.tenantId deviceId bytes version) wire
        refine ⟨Unit, ⟨⟨if f.response.status.isSuccess then .ok ()
          else .error (session.failure version f.response), f.state,
          fun format _ => updatedText format f.response.status f.response.etag,
          fun format _ => updatedText_ne_empty format _ _, fun o' ho' => ?_⟩⟩⟩
        rw [run_setCredentials hload ((connect_congr ho').trans hconnect)]
        split <;> rfl

/-! ### Runs -/

/-- Only a quiet run prints nothing of a text. Any other run ends it by a line break, so not even an
empty text would go unnoticed. -/
theorem printed_eq_empty_iff {quiet : Bool} {text : String} (h : text ≠ "") :
    printed quiet text = "" ↔ quiet = true := by
  cases quiet with
  | true => simp [printed]
  | false => simp [printed, h, String.append_eq_empty_iff]

/-- A quiet run prints nothing, and any other prints something exactly when it succeeds. -/
structure Report.Obeys (r : Report) (quiet : Bool) : Prop where
  silent : quiet = true → r.output = ""
  tells : quiet = false → (r.output ≠ "" ↔ r.ending = .success)

/-- A report on a result obeys what has been said of quiet runs, if its text is never empty.
Failures are printed elsewhere. -/
theorem Report.of_obeys {α : Type} {result : Except Failure α} {text : α → String} (quiet : Bool)
    (htext : ∀ a, text a ≠ "") : (Report.of quiet (result.map text)).Obeys quiet := by
  cases result with
  | error f =>
    refine ⟨fun _ => rfl, fun _ => ?_⟩
    simp [Report.of]
  | ok a =>
    have hempty : (Report.of quiet (.ok (text a))).output = "" ↔ quiet = true :=
      printed_eq_empty_iff (htext a)
    refine ⟨hempty.2, fun hquiet => ⟨fun _ => rfl, fun _ hprinted => ?_⟩⟩
    rw [hempty.1 hprinted] at hquiet
    cases hquiet

/-- Command lines that differ in flags send the same requests and end the same. A quiet one prints
nothing, and any other prints something exactly when it succeeds. How often `-v` is given does not
even change what is printed. -/
theorem flags_change_only_output (w : Surroundings) (wire : Client.Wire) {args args' : List String}
    {i i' : Invocation} (hi : Invocation.read w.env args = .ok i)
    (hi' : Invocation.read w.env args' = .ok i') (hsubject : i.command.HasSubject)
    (hsame : SameButFlags args args' ∨
      i.command = i'.command ∧ i.options.withoutFlags = i'.options.withoutFlags) :
    let r := run w args wire
    let r' := run w args' wire
    r.2 = r'.2 ∧ r.1.ending = r'.1.ending ∧
      r.1.Obeys i.options.quiet ∧ r'.1.Obeys i'.options.quiet ∧
      (i.options.output = i'.options.output → i.options.quiet = i'.options.quiet →
        r.1.output = r'.1.output) := by
  intro r r'
  obtain ⟨hcommand, hoptions⟩ : i.command = i'.command ∧
      i.options.withoutFlags = i'.options.withoutFlags := by
    rcases hsame with hwords | hsame
    · exact read_sameButFlags hwords hi hi'
    · exact hsame
  -- What is done does not depend on the flags. They come in when it is printed.
  obtain ⟨α, ⟨done⟩⟩ := Command.exists_done w i.options wire hsubject
  have hr : r = _ := run_eq hi
  have hr' : r' = _ := run_eq hi'
  rw [done.run_eq i.options rfl] at hr
  rw [← hcommand, done.run_eq i'.options hoptions.symm] at hr'
  rw [hr, hr']
  refine ⟨rfl, ?_, Report.of_obeys _ (done.text_ne_empty _),
    Report.of_obeys _ (done.text_ne_empty _), fun houtput hquiet => ?_⟩
  · cases done.result <;> rfl
  · dsimp only [Options.format]
    rw [houtput, hquiet]

/-- A place where every file is an empty array, and the settings cannot be read. -/
def emptyArrays : Surroundings where
  env := []
  settingsPath := "config.toml"
  settingsText := some "="
  files _ := .ok [0x5B, 0x5D]

/-- A quiet command line that asks for another format ends as one that is not quiet. The flags stand
at all levels, with their values behind them or in the same word. -/
theorem flags_change_only_output_validate :
    let args := ["credentials", "validate", "-o", "json", "a.json"]
    let args' := ["-qv", "credentials", "--output=yaml", "validate", "-v", "a.json"]
    (run emptyArrays args ⟨[], []⟩).1.output = "[]\n" ∧
      (run emptyArrays args' ⟨[], []⟩).1.output = "" ∧
      (run emptyArrays args ⟨[], []⟩).1.ending = (run emptyArrays args' ⟨[], []⟩).1.ending := by
  intro args args'
  -- From left to right: two letters in one word, an output in one word, one in two words, a letter.
  have hsame : SameButFlags args args' := by
    have hqv : IsFlag ["-qv"] := @IsFlag.letters 'q' ['v'] (by simp)
    have hv : IsFlag ["-v"] := @IsFlag.letters 'v' [] (by simp)
    refine .right hqv (.word (by decide) ?_)
    refine .right (.outputAttached .yaml) (.word (by decide) ?_)
    exact .left (.outputLetter .json) (.right hv (.refl _))
  have hi : Invocation.read emptyArrays.env args =
      .ok ⟨{ output := some .json }, .validateCredentials "a.json"⟩ := rfl
  have hi' : Invocation.read emptyArrays.env args' =
      .ok ⟨{ output := some .yaml, verbosity := 1, quiet := true },
        .validateCredentials "a.json"⟩ := rfl
  obtain ⟨-, hending, -, hquiet, -⟩ :=
    flags_change_only_output emptyArrays ⟨[], []⟩ hi hi' trivial (.inl hsame)
  exact ⟨rfl, hquiet.silent rfl, hending⟩

end CommandLine

end DeviceRegistry
