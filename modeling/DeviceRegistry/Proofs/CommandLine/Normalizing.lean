import DeviceRegistry.Proofs.CommandLine.Outcome
import DeviceRegistry.Proofs.CommandLine.Reporting
import DeviceRegistry.Proofs.CommandLine.Validate
import DeviceRegistry.Proofs.Device.Written

/-!
# `DeviceRegistry.Proofs.CommandLine.Normalizing`: what is printed as JSON can be read again

A run that reports credentials or a device as JSON prints a text that is decoded to them again, so
validating a file with that text prints it once more. Numbers must be whole: others need not come
back as they were. Main statements:

* `decodeBody_of_report`, `Device.decoder_ofBytes_of_report`: what is reported is decoded again.
* `validate_normalizes`: runs that validate a file or get credentials.
-/

set_option autoImplicit false

namespace DeviceRegistry

open DeviceRegistry.Json (Value LaidOut AreBlank)

variable {f : Format} {cs : List Credential} {d : Device} {body : List UInt8}

/-! ### Reports -/

/-- The formats that are JSON. -/
def Format.IsJson (f : Format) : Prop := f = .json ∨ f = .compactJson

/-- JSON is another format than the table that people read, so what is reported in it is the
document. -/
theorem Format.IsJson.ne_table (hf : f.IsJson) : f ≠ .table := by
  rintro rfl
  rcases hf with h | h <;> cases h

/-- In both of them a document stands with blanks between its tokens at most, which is all that
reading it again needs. -/
theorem Format.IsJson.laidOut (hf : f.IsJson) (v : Value) : LaidOut v (f.render v).toList := by
  rcases hf with rfl | rfl
  · show LaidOut v v.renderPretty.toList
    rw [Value.renderPretty, String.toList_ofList]
    exact Json.laidOut_prettyChars v 0
  · show LaidOut v v.render.toList
    rw [Value.render, String.toList_ofList]
    exact Json.laidOut_chars v

/-- A line break is blank to a reader of JSON, so the one that ends the output does no harm. -/
theorem areBlank_lineEnd : AreBlank ['\n'] := by
  intro x hx
  rw [List.mem_singleton.1 hx]
  decide

/-- A text that is printed ends its line, unless it is empty, which no report is. -/
theorem CommandLine.toList_printed {text : String} (h : text ≠ "") :
    (CommandLine.printed false text).toList = text.toList ++ ['\n'] := by
  have hprinted : CommandLine.printed false text = text ++ "\n" := by
    simp [CommandLine.printed, h]
  rw [hprinted, String.toList_append]
  rfl

open CommandLine (printed toList_printed)

/-- The credentials of a body are those of what is printed of them: the text is laid out as the
documents, and these decode to the same credentials. -/
theorem decodeBody_of_report (hf : f.IsJson) {items : List Value}
    (hbody : Value.ofBytes body = .ok (.array items)) (h : Credential.decodeAll items = .ok cs)
    (hwhole : ∀ c ∈ cs, c.document.IsWhole) :
    Credential.decodeBody (Text.bytes (printed false (Credential.report f cs))) = .ok cs := by
  have hprinted := toList_printed (Credential.report_ne_empty f cs)
  have hlaid := hf.laidOut (.array (cs.map Credential.document))
  rw [← Credential.report_eq_render hf.ne_table] at hlaid
  exact Credential.decodeBody_of_laidOut hbody h hwhole hlaid areBlank_lineEnd hprinted

/-- A device that was read is the device of what is printed of it. That it was read matters, as only
then its document can be read again. -/
theorem Device.decoder_ofBytes_of_report (hf : f.IsJson) (h : decoder.ofBytes body = .ok d)
    (hwhole : d.document.IsWhole) :
    decoder.ofBytes (Text.bytes (printed false (report f d))) = .ok d := by
  have hprinted := toList_printed (report_ne_empty f d)
  have hlaid := hf.laidOut d.document
  rw [← report_eq_render hf.ne_table] at hlaid
  exact decoder_ofBytes_of_laidOut (isStorable_of_ofBytes h) hwhole hlaid areBlank_lineEnd hprinted

namespace CommandLine

open DeviceRegistry.Client (Wire Reply)

variable {w : Surroundings} {args : List String} {i : Invocation} {wire : Wire} {path : String}
  {bytes : List UInt8}

/-! ### Runs -/

/-- Validating credentials reports those that were loaded, in the format of the options. What is
printed is therefore a function of what was decoded, which the statement on normal forms starts
from. -/
theorem run_validateCredentials (hread : Invocation.read w.env args = .ok i)
    (hcommand : i.command = .validateCredentials path)
    (hload : loadCredentials w w.settings path = .ok (bytes, cs)) :
    (run w args wire).1 =
      Report.of i.options.quiet (.ok (Credential.report (i.options.format w.settings) cs)) := by
  have hrun : (i.command.run w i.options wire).1 =
      (loadCredentials w w.settings path).map fun loaded =>
        Credential.report (i.options.format w.settings) loaded.2 := by
    rw [hcommand]
    rfl
  rw [run_eq hread, hrun, hload]
  rfl

/-- Validating a device reports the one that was loaded, in the format of the options. -/
theorem run_validateDevice (hread : Invocation.read w.env args = .ok i)
    (hcommand : i.command = .validateDevice path)
    (hload : loadDevice w w.settings path = .ok d) :
    (run w args wire).1 =
      Report.of i.options.quiet (.ok (Device.report (i.options.format w.settings) d)) := by
  have hrun : (i.command.run w i.options wire).1 =
      (loadDevice w w.settings path).map (Device.report (i.options.format w.settings)) := by
    rw [hcommand]
    rfl
  rw [run_eq hread, hrun, hload]
  rfl

/-- The version in a reply is shown below a table only, so in every other format the text is that of
the credentials alone. -/
theorem fetchedText_of_ne_table {version : Option String} (hf : f ≠ .table) :
    fetchedText f cs version = Credential.report f cs := by
  cases f with
  | table => exact absurd rfl hf
  | json | compactJson | yaml => rfl

/-- Every run of a command on a file with what was printed ends with the same report, if it is not
quiet, uses the same format, and takes files of that length. -/
def Report.IsFixed (r : Report) (command : String → Command) (f : Format) : Prop :=
  ∀ w args i path wire, Invocation.read w.env args = .ok i → i.command = command path →
    i.options.format w.settings = f → i.options.quiet = false →
    w.files path = .ok (Text.bytes r.output) →
    (Text.bytes r.output).length ≤ w.settings.endpoint.maxPayloadSize.toNat →
    (run w args wire).1 = r

/-- Validating normalizes: what is printed as JSON of a file is decoded to what the file was decoded
to, and is printed again when a file holds it. What is printed of the credentials in a reply is
decoded to those that the reply was decoded to. -/
theorem validate_normalizes (hread : Invocation.read w.env args = .ok i)
    (hquiet : i.options.quiet = false) (hformat : (i.options.format w.settings).IsJson) :
    let r := run w args wire
    let format := i.options.format w.settings
    -- credentials in a file
    (∀ path bytes cs, i.command = .validateCredentials path →
      loadCredentials w w.settings path = .ok (bytes, cs) → (∀ c ∈ cs, c.document.IsWhole) →
      r.1.ending = .success ∧ Credential.decodeBody (Text.bytes r.1.output) = .ok cs ∧
        r.1.IsFixed .validateCredentials format) ∧
    -- a device in a file
    (∀ path d, i.command = .validateDevice path → loadDevice w w.settings path = .ok d →
      d.document.IsWhole →
      r.1.ending = .success ∧ Device.decoder.ofBytes (Text.bytes r.1.output) = .ok d ∧
        r.1.IsFixed .validateDevice format) ∧
    -- credentials in a reply
    (∀ deviceId tenant reply rest headers cs, i.command = .getCredentials deviceId tenant →
      r.2.sent ≠ wire.sent → wire.replies = reply :: rest →
      reply.opening? = some (200, headers) → reply.credentials? = some cs →
      (∀ c ∈ cs, c.document.IsWhole) →
      r.1.ending = .success ∧ Credential.decodeBody (Text.bytes r.1.output) = .ok cs) := by
  intro r format
  refine ⟨?_, ?_, ?_⟩
  · intro path bytes cs hcommand hload hwhole
    have hr : r.1 = _ := run_validateCredentials hread hcommand hload
    obtain ⟨-, -, hdecode⟩ := loadCredentials_eq_ok_iff.1 hload
    obtain ⟨-, items, hbody, hitems⟩ := Management.Endpoint.decodeBody_eq_ok_iff.1 hdecode
    have hagain := decodeBody_of_report hformat hbody hitems hwhole
    rw [hr, hquiet]
    refine ⟨rfl, hagain, ?_⟩
    intro w' args' i' path' wire' hread' hcommand' hformat' hquiet' hfile hlength
    rw [run_validateCredentials hread' hcommand'
      (loadCredentials_eq_ok_iff.2 ⟨hfile, hlength, hagain⟩), hformat', hquiet']
  · intro path d hcommand hload hwhole
    have hr : r.1 = _ := run_validateDevice hread hcommand hload
    obtain ⟨bytes, -, -, hdecode⟩ := loadDevice_eq_ok_iff.1 hload
    have hagain := Device.decoder_ofBytes_of_report hformat hdecode hwhole
    rw [hr, hquiet]
    refine ⟨rfl, hagain, ?_⟩
    intro w' args' i' path' wire' hread' hcommand' hformat' hquiet' hfile hlength
    rw [run_validateDevice hread' hcommand'
      (loadDevice_eq_ok_iff.2 ⟨_, hfile, hlength, hagain⟩), hformat', hquiet']
  · intro deviceId tenant reply rest headers cs hcommand hsent hreply hopening hcredentials hwhole
    obtain ⟨said, hr, hconcludes⟩ := run_concludes (s := .ok) hread hsent hreply hopening
    obtain ⟨body, -, hdecoded⟩ := Client.Reply.credentials?_eq_some hopening hcredentials
    obtain ⟨items, hbody, -, hitems⟩ := Credential.list_decoder_eq_ok_iff.1 hdecoded
    have huse : i.command.CanUse .ok reply := by
      rw [hcommand]
      exact fun _ => ⟨cs, hcredentials⟩
    have htext : i.command.text format .ok headers reply = Credential.report format cs := by
      rw [hcommand, Command.text, hcredentials, if_pos (show Status.ok.code = 200 from rfl)]
      exact fetchedText_of_ne_table hformat.ne_table
    have hsaid := hconcludes.succeeds rfl huse
    rw [htext] at hsaid
    have hreport : r.1 = Report.of i.options.quiet said := hr
    rw [hreport, hsaid, hquiet]
    exact ⟨rfl, decodeBody_of_report hformat hbody hitems hwhole⟩

/-- A device whose groups are given twice, next to a member that is no field and is passed over. -/
def groupsTwice : String :=
  "\x7b\"other\": 1e999, \"memberOf\": [\"b\", \"a\", \"b\"]\x7d"

/-- A body with a credential whose members stand in an order of their own. -/
def shuffledBody : String :=
  "[\x7b\"secrets\": [\x7b\x7d], \"auth-id\": \"CN=a\", \"type\": \"x509-cert\"\x7d]"

/-- The credential in the body. -/
def certificate : Credential where
  info := { authId := "CN=a" }
  secrets := .certificate [{}]

/-- A file with groups that are given twice is printed once and for all, and so is a credential
whose members stand in another order, from a file or from a reply. -/
theorem validate_normalizes_groups :
    let validate (text : String) := (run (holding text)
      ["device", "validate", "-o", "json-compact", "a.json"] ⟨[], []⟩).1
    let check (text : String) := (run (holding text)
      ["credentials", "validate", "-o", "json-compact", "a.json"] ⟨[], []⟩).1
    let asked := (run office ["credentials", "get", "4711", "-t", "T", "-o", "json-compact"]
      ⟨[.response 200 [] (Text.bytes shuffledBody)], []⟩).1
    (validate groupsTwice).output = "\x7b\"memberOf\":[\"a\",\"b\"]\x7d\n" ∧
    validate (validate groupsTwice).output = validate groupsTwice ∧
    (check shuffledBody).output =
      "[\x7b\"type\":\"x509-cert\",\"auth-id\":\"CN=a\",\"secrets\":[\x7b\x7d]\x7d]\n" ∧
    check (check shuffledBody).output = check shuffledBody ∧
    Credential.decodeBody (Text.bytes asked.output) = .ok [certificate] := by
  intro validate check asked
  have hvalidate : ∀ text, Invocation.read (holding text).env
      ["device", "validate", "-o", "json-compact", "a.json"] =
        .ok ⟨{ output := some .compactJson }, .validateDevice "a.json"⟩ := fun _ => rfl
  have hcheck : ∀ text, Invocation.read (holding text).env
      ["credentials", "validate", "-o", "json-compact", "a.json"] =
        .ok ⟨{ output := some .compactJson }, .validateCredentials "a.json"⟩ := fun _ => rfl
  have hask : Invocation.read office.env
      ["credentials", "get", "4711", "-t", "T", "-o", "json-compact"] =
        .ok ⟨{ output := some .compactJson }, .getCredentials "4711" (some "T")⟩ := rfl
  have hdevice : loadDevice (holding groupsTwice) (holding groupsTwice).settings "a.json" =
      .ok { memberOf := ["a", "b"] } := rfl
  have hcredentials : loadCredentials (holding shuffledBody) (holding shuffledBody).settings
      "a.json" = .ok (Text.bytes shuffledBody, [certificate]) := rfl
  have hreply : (Client.Reply.response 200 [] (Text.bytes shuffledBody)).credentials? =
      some [certificate] := rfl
  have hsent : (run office ["credentials", "get", "4711", "-t", "T", "-o", "json-compact"]
      ⟨[.response 200 [] (Text.bytes shuffledBody)], []⟩).2.sent ≠ [] := by decide +kernel
  have hwhole : ∀ c ∈ [certificate], c.document.IsWhole := by
    have hdocument : certificate.document = .object [("type", .string "x509-cert"),
      ("auth-id", .string "CN=a"), ("secrets", .array [.object []])] := rfl
    rw [List.forall_mem_singleton, hdocument]
    simp [Value.IsWhole, Value.MembersWhole, Value.AllWhole]
  have hflat : ({ memberOf := ["a", "b"] } : Device).document.IsWhole := by
    have hdocument : ({ memberOf := ["a", "b"] } : Device).document =
      .object [("memberOf", .array [.string "a", .string "b"])] := rfl
    rw [hdocument]
    simp [Value.IsWhole, Value.MembersWhole, Value.AllWhole]
  -- The three commands, each with what it reads.
  obtain ⟨-, hdeviceFixed, -⟩ :=
    @validate_normalizes (holding groupsTwice) _ _ ⟨[], []⟩ (hvalidate _) rfl (.inr rfl)
  obtain ⟨hcredentialsFixed, -, -⟩ :=
    @validate_normalizes (holding shuffledBody) _ _ ⟨[], []⟩ (hcheck _) rfl (.inr rfl)
  obtain ⟨-, -, hasked⟩ := @validate_normalizes office _ _
    ⟨[.response 200 [] (Text.bytes shuffledBody)], []⟩ hask rfl (.inr rfl)
  obtain ⟨-, -, hdeviceAgain⟩ := hdeviceFixed _ _ rfl hdevice hflat
  obtain ⟨-, -, hcredentialsAgain⟩ := hcredentialsFixed _ _ _ rfl hcredentials hwhole
  have hprinted : (validate groupsTwice).output =
      "\x7b\"memberOf\":[\"a\",\"b\"]\x7d\n" := rfl
  have hchecked : (check shuffledBody).output =
      "[\x7b\"type\":\"x509-cert\",\"auth-id\":\"CN=a\",\"secrets\":[\x7b\x7d]\x7d]\n" :=
    rfl
  refine ⟨hprinted, ?_, hchecked, ?_, ?_⟩
  · refine hdeviceAgain _ _ _ _ ⟨[], []⟩ (hvalidate _) rfl rfl rfl rfl ?_
    show (Text.bytes (validate groupsTwice).output).length ≤ _
    rw [hprinted]
    decide +kernel
  · refine hcredentialsAgain _ _ _ _ ⟨[], []⟩ (hcheck _) rfl rfl rfl rfl ?_
    show (Text.bytes (check shuffledBody).output).length ≤ _
    rw [hchecked]
    decide +kernel
  · exact (hasked _ _ _ _ _ _ rfl hsent rfl rfl hreply hwhole).2

end CommandLine

end DeviceRegistry
