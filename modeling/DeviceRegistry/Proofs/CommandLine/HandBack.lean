import DeviceRegistry.Proofs.Client.HandBack
import DeviceRegistry.Proofs.CommandLine.Assertion
import DeviceRegistry.Proofs.CommandLine.Outcome
import DeviceRegistry.Proofs.CommandLine.Reporting

/-!
# `DeviceRegistry.Proofs.CommandLine.HandBack`: versions that the program shows and asserts

Below a table of credentials the program shows their version in a line of its own. That line is the
last one, and no line of a table can be taken for it, so that what stands in it is a version that a
client has handed out. A version that was handed out, there or by a client, can be asserted later,
by the program as by a client. Main statements:

* `handsOut_of_endsInVersion`: the version that the program shows.
* `run_asserts`: what the program does with a version that is asserted besides.
* `version_goesBack`: a version that was handed out can be handed back.
-/

set_option autoImplicit false

namespace DeviceRegistry

/-! ### Last lines -/

/-- The last line of a text is determined by it: what stands behind the last line break does,
however the text was put together. -/
theorem lastLine_inj {front front' line line' : List Char}
    (h : front ++ '\n' :: line = front' ++ '\n' :: line') (hline : '\n' ∉ line)
    (hline' : '\n' ∉ line') : line = line' := by
  rcases List.append_eq_append_iff.1 h with ⟨m, -, hm⟩ | ⟨m, -, hm⟩
  · cases m with
    | nil => exact (List.cons.inj hm).2
    | cons c m =>
      rw [(List.cons.inj hm).2] at hline
      exact absurd (List.mem_append_right m List.mem_cons_self) hline
  · cases m with
    | nil => exact (List.cons.inj hm).2.symm
    | cons c m =>
      rw [(List.cons.inj hm).2] at hline'
      exact absurd (List.mem_append_right m List.mem_cons_self) hline'

/-- A character that is in none of the parts and not in what stands between them is not in the text
that is joined from them. -/
theorem not_mem_intercalate {c : Char} {s : String} {ts : List String} (hs : c ∉ s.toList)
    (hts : ∀ t ∈ ts, c ∉ t.toList) : c ∉ (s.intercalate ts).toList := by
  induction ts with
  | nil => simp
  | cons t ts ih =>
    have ht := hts t List.mem_cons_self
    have ih := ih fun u hu => hts u (List.mem_cons_of_mem t hu)
    by_cases hempty : ts = []
    · rw [hempty, String.intercalate_singleton]
      exact ht
    · rw [String.intercalate_cons_of_ne_nil hempty, String.toList_append, String.toList_append]
      simp only [List.mem_append, not_or]
      exact ⟨⟨ht, hs⟩, ih⟩

namespace Grid

/-- A line between rows is one line, since it is joined from dashes and corners. -/
theorem not_mem_ruleText {left crossing right : String} {ws : List Nat}
    (h : '\n' ∉ left.toList ∧ '\n' ∉ crossing.toList ∧ '\n' ∉ right.toList) :
    '\n' ∉ (ruleText left crossing right ws).toList := by
  have hdash : ∀ t ∈ ws.map fun w => String.ofList (List.replicate (w + 2) '─'),
      '\n' ∉ t.toList := by
    intro t ht
    obtain ⟨w, -, rfl⟩ := List.mem_map.1 ht
    rw [String.toList_ofList]
    exact fun hmem => absurd (List.eq_of_mem_replicate hmem) (by decide)
  unfold ruleText
  dsimp only
  rw [String.toList_append, String.toList_append]
  simp only [List.mem_append, not_or]
  exact ⟨⟨h.1, not_mem_intercalate h.2.1 hdash⟩, h.2.2⟩

/-- The last line of a table is a line between rows, the one below the headings or the one at the
end, and starts with a corner. -/
theorem exists_lastLine (g : Grid) :
    ∃ front line, g.text = front ++ "\n" ++ line ∧ '\n' ∉ line.toList ∧
      ∃ c rest, line.toList = c :: rest ∧ (c = '├' ∨ c = '╰') := by
  have hrule (left crossing right : String) {c : Char} (hleft : left.toList = [c]) :
      ∃ rest, (ruleText left crossing right g.widths).toList = c :: rest := by
    unfold ruleText
    dsimp only
    rw [String.toList_append, String.toList_append, hleft]
    exact ⟨_, rfl⟩
  have hlast (lines : List String) (line : String) (h : lines ≠ []) :
      String.intercalate "\n" (lines ++ [line]) =
        String.intercalate "\n" lines ++ "\n" ++ line := by
    rw [String.intercalate_append_of_ne_nil h (List.cons_ne_nil _ _), String.intercalate_singleton]
  unfold text
  dsimp only
  -- Without rows, the line below the headings is the last.
  cases g.rows.isEmpty with
  | true =>
    obtain ⟨rest, hrest⟩ := hrule "├" "┼" "┤" rfl
    exact ⟨_, _, hlast [_, _] _ (List.cons_ne_nil _ _), not_mem_ruleText (by decide), _,
      rest, hrest, .inl rfl⟩
  | false =>
    obtain ⟨rest, hrest⟩ := hrule "╰" "┴" "╯" rfl
    rw [if_neg (by decide), ← List.append_assoc]
    exact ⟨_, _, hlast _ _ (by simp), not_mem_ruleText (by decide), _, rest, hrest, .inr rfl⟩

end Grid

namespace CommandLine

open DeviceRegistry.Client (Wire Reply Sent IsVisible IsForbidden)
open DeviceRegistry.Management (Endpoint EndpointConfig Request Response Version)

variable {w : Surroundings} {o : Options} {wire : Wire} {args args' front rest : List String}
  {deviceId file : String} {tenant : Option String} {v : Version}

/-! ### Versions that are shown -/

/-- The last line of what is printed names a version. -/
def EndsInVersion (output v : String) : Prop :=
  '\n' ∉ v.toList ∧ ∃ front, output = front ++ "\nVersion: " ++ v ++ "\n"

/-- Below a table, the last line names the version that the table has, if there is one. Without one
the last line is that of the table, which starts with a corner and not with a word. -/
theorem version_of_fetchedText {cs : List Credential} {version : Option Version} {front : String}
    (hversion : ∀ v, version = some v → '\n' ∉ v.toList) (hv : '\n' ∉ v.toList)
    (h : fetchedText .table cs version = front ++ "\nVersion: " ++ v) : version = some v := by
  have hline : '\n' ∉ "Version: ".toList ++ v.toList := by
    simpa using hv
  have hlist : (front ++ "\nVersion: " ++ v).toList =
      front.toList ++ '\n' :: ("Version: ".toList ++ v.toList) := by
    rw [String.toList_append, String.toList_append, List.append_assoc]
    rfl
  cases version with
  | some v' =>
    have hlist' : (fetchedText .table cs (some v')).toList =
        (Credential.report .table cs).toList ++ '\n' :: ("Version: ".toList ++ v'.toList) := by
      show (Credential.report .table cs ++ "\nVersion: " ++ v').toList = _
      rw [String.toList_append, String.toList_append, List.append_assoc]
      rfl
    have hline' : '\n' ∉ "Version: ".toList ++ v'.toList := by
      simpa using hversion v' rfl
    have heq := lastLine_inj (hlist' ▸ hlist ▸ congrArg String.toList h) hline' hline
    exact congrArg some (String.toList_inj.1 (List.append_cancel_left heq))
  | none =>
    -- A line between rows does not name a version.
    obtain ⟨front', line, htext, hnot, c, rest, hrest, hc⟩ := (Credential.grid cs).exists_lastLine
    have hlist' : (fetchedText .table cs none).toList = front'.toList ++ '\n' :: line.toList := by
      show (Credential.grid cs).text.toList = _
      rw [htext, String.toList_append, String.toList_append, List.append_assoc]
      rfl
    have heq := lastLine_inj (hlist' ▸ hlist ▸ congrArg String.toList h) hnot hline
    rw [hrest] at heq
    have hhead : c = 'V' := (List.cons.inj heq).1
    subst hhead
    rcases hc with hc | hc <;> exact absurd hc (by decide)

/-- What the program prints when it reads credentials, if it prints anything: credentials, and a
version that a client has handed out. -/
theorem exists_fetchedText
    (hread : Invocation.read w.env args = .ok ⟨o, .getCredentials deviceId tenant⟩)
    (houtput : (run w args wire).1.output ≠ "") :
    ∃ cs version, (run w args wire).1.output =
        fetchedText (o.format w.settings) cs version ++ "\n" ∧
      ∀ v, version = some v → Client.HandsOut v := by
  rw [run_eq hread] at houtput ⊢
  dsimp only at houtput ⊢
  -- Output is left only when nothing failed on the way, and then it has the version of the answer.
  cases hconnect : connect w w.settings o deviceId tenant with
  | error f =>
    rw [Command.run, hconnect] at houtput
    exact absurd rfl houtput
  | ok connected =>
    obtain ⟨endpoint, session⟩ := connected
    obtain ⟨p, client, rfl, -⟩ := connect_eq_ok hconnect
    rw [run_getCredentials hconnect] at houtput ⊢
    dsimp only at houtput ⊢
    rw [Endpoint.watched_eq_handle.1] at houtput ⊢
    split at houtput
    · rename_i hsuccess
      rw [if_pos hsuccess]
      cases hfetched : fetched _ with
      | error f =>
        rw [hfetched] at houtput
        exact absurd rfl houtput
      | ok cs =>
        rw [hfetched] at houtput
        exact ⟨cs, _, if_neg fun hquiet => houtput (if_pos hquiet), fun v hetag => .endpoint hetag⟩
    · exact absurd rfl houtput

/-- A version that the program shows was handed out by a client: the line that names it is the last
one, and no line of a table can be taken for it. -/
theorem handsOut_of_endsInVersion
    (hread : Invocation.read w.env args = .ok ⟨o, .getCredentials deviceId tenant⟩)
    (htable : o.format w.settings = .table)
    (hline : EndsInVersion (run w args wire).1.output v) : Client.HandsOut v := by
  obtain ⟨hv, front, houtput⟩ := hline
  have hnonempty : (run w args wire).1.output ≠ "" := fun hempty =>
    absurd (String.append_eq_empty_iff.1 (houtput ▸ hempty)).2 (by decide)
  obtain ⟨cs, version, hfetched, hhanded⟩ := exists_fetchedText hread hnonempty
  rw [htable] at hfetched
  have htext := (String.append_left_inj "\n").1 (hfetched.symm.trans houtput)
  refine hhanded v (version_of_fetchedText (fun v hversion hmem => ?_) hv htext)
  -- All characters of such a version can be shown, and a line break cannot.
  rcases (hhanded v hversion).isVisible '\n' hmem with htab | hspace
  · exact absurd htab (by decide)
  · exact absurd hspace.1 (by decide)

/-- A version is handed out: by a client, or by the program, below a table of credentials. -/
inductive HandedOut (v : Version) : Prop
  | client (handsOut : Client.HandsOut v)
  | program {w : Surroundings} {o : Options} {args : List String} {deviceId : String}
    {tenant : Option String} {wire : Wire}
    (read : Invocation.read w.env args = .ok ⟨o, .getCredentials deviceId tenant⟩)
    (table : o.format w.settings = .table) (line : EndsInVersion (run w args wire).1.output v)

/-- A header can carry a version that was handed out, by whom ever, as all characters of such a
version can be shown. -/
theorem HandedOut.not_isForbidden (h : HandedOut v) : ¬ IsForbidden v := by
  refine Client.not_isForbidden_of_isVisible (Client.HandsOut.isVisible ?_)
  cases h with
  | client handsOut => exact handsOut
  | program hread htable hline => exact handsOut_of_endsInVersion hread htable hline

/-! ### Versions that are asserted -/

/-- Two runs end alike, but for the version that the registry refuses. -/
def EndsAlike (v : Version) (plain asserted : Ending) : Prop :=
  asserted = plain ∨ plain = .failed (.preconditionFailed "") ∧
    asserted = .failed (.preconditionFailed v)

/-- A failure names the version that was asserted when it is the version that is refused; all other
failures are the same with a version and without. -/
theorem failure_asserts (session : Session) (v : Version) (r : Response) :
    EndsAlike v (.failed (session.failure none r)) (.failed (session.failure (some v) r)) := by
  unfold Session.failure
  split
  · exact .inl rfl
  · exact .inl rfl
  · exact .inl rfl
  · exact .inr ⟨rfl, rfl⟩
  · exact .inl rfl

/-- What the program does with a version that is asserted besides: it sends what it would send, with
the version, and prints the same and ends alike. -/
theorem run_asserts
    (hplain : Invocation.read w.env args = .ok ⟨o, .setCredentials deviceId file none tenant⟩)
    (hasserted : Invocation.read w.env args' =
      .ok ⟨o, .setCredentials deviceId file (some v) tenant⟩)
    (hv : ¬ IsForbidden v) (wire : Wire) :
    let plain := run w args wire
    let asserted := run w args' wire
    Client.Asserts v wire plain.2 asserted.2 ∧ asserted.1.output = plain.1.output ∧
      EndsAlike v plain.1.ending asserted.1.ending := by
  intro plain asserted
  have hsame {f : Failure} (h : ∀ version, (Command.setCredentials deviceId file version tenant).run
      w o wire = (.error f, wire)) : Client.Asserts v wire plain.2 asserted.2 ∧
      asserted.1.output = plain.1.output ∧ EndsAlike v plain.1.ending asserted.1.ending := by
    have hrun : plain = asserted := by
      rw [show plain = _ from run_eq hplain, show asserted = _ from run_eq hasserted, h, h]
    have hleft : plain.2 = wire := by
      rw [show plain = _ from run_eq hplain, h]
    rw [← hrun, hleft]
    exact ⟨.unsent, rfl, .inl rfl⟩
  -- What fails before there is an endpoint has nothing to do with the version.
  cases hload : loadCredentials w w.settings file with
  | error f =>
    refine hsame (f := f) fun version => ?_
    rw [Command.run, hload]
    rfl
  | ok loaded =>
    obtain ⟨body, cs⟩ := loaded
    cases hconnect : connect w w.settings o deviceId tenant with
    | error f =>
      refine hsame (f := f) fun version => ?_
      rw [Command.run, hload]
      dsimp only
      rw [hconnect]
      rfl
    | ok connected =>
      obtain ⟨endpoint, session⟩ := connected
      obtain ⟨p, client, rfl, -⟩ := connect_eq_ok hconnect
      let r : Request := .update session.tenantId deviceId body none
      obtain ⟨hanswer, hleft⟩ :=
        Client.handle_asserts (r := r) client w.settings.endpoint wire rfl hv
      have hplain' : plain = _ := run_eq hplain
      have hasserted' : asserted = _ := run_eq hasserted
      rw [run_setCredentials hload hconnect] at hplain' hasserted'
      dsimp only at hplain' hasserted'
      rw [Endpoint.watched_eq_handle.1, Endpoint.watched_eq_handle.2] at hplain' hasserted'
      have hresponse := congrArg Management.Answer.response hanswer
      rw [show Request.update session.tenantId deviceId body (some v) =
        { r with ifMatch := some v } from rfl, hresponse] at hasserted'
      rw [show Request.update session.tenantId deviceId body none =
        { r with ifMatch := none } from rfl] at hplain'
      generalize (Endpoint.handle _ { r with ifMatch := none } wire).1.response = response
        at hplain' hasserted'
      refine ⟨by rw [hplain', hasserted']; exact hleft, ?_⟩
      rw [hplain', hasserted']
      dsimp only
      cases response.status.isSuccess with
      | true => exact ⟨rfl, .inl rfl⟩
      | false => exact ⟨rfl, failure_asserts session v response⟩

/-! ### Versions that go back -/

/-- What comes of a version that is asserted later: it goes out in the one header for it, as it is,
and nothing else is different. -/
structure GoesBack (v : Version) : Prop where
  /-- A client has sent a request if there is a URL for the device and a server that replies. -/
  sent : ∀ (c : Client) t d cs wire url reply rest, c.Reaches (.update t d cs none) url →
    wire.replies = reply :: rest →
      ∃ q, (c.update t d cs (some v) wire).2 = ⟨rest, wire.sent ++ [q]⟩ ∧
        q.values "if-match" = [v]
  /-- It sends and says what it would without the version. -/
  client : ∀ (c : Client) t d cs wire,
    Client.Asserts v wire (c.update t d cs none wire).2 (c.update t d cs (some v) wire).2 ∧
      (c.update t d cs (some v) wire).1 = (c.update t d cs none wire).1
  /-- So does an endpoint in front of a client. -/
  endpoint : ∀ (c : Client) (config : EndpointConfig) (r : Request) wire, r.method = "PUT" →
    let e : Endpoint Wire := ⟨c.service, config⟩
    let plain := e.handle { r with ifMatch := none } wire
    let asserted := e.handle { r with ifMatch := some v } wire
    Client.Asserts v wire plain.2 asserted.2 ∧ asserted.1 = plain.1
  /-- So does the program, wherever among the arguments the version is asserted. -/
  program : ∀ (w : Surroundings) (front rest : List String) (o : Options)
    (deviceId file : String) (tenant : Option String) (wire : Wire),
    canAssert .root (.start .root) front = true →
    Invocation.read w.env (front ++ rest) = .ok ⟨o, .setCredentials deviceId file none tenant⟩ →
      let plain := run w (front ++ rest) wire
      let asserted := run w (front ++ ("--if-match=" ++ v) :: rest) wire
      Client.Asserts v wire plain.2 asserted.2 ∧ asserted.1.output = plain.1.output ∧
        EndsAlike v plain.1.ending asserted.1.ending

/-- A version that was handed out can be handed back: through a client, through an endpoint in front
of one, and through the program. Whatever version a client is given is sent as it is or, if no
header can carry it, keeps everything from being sent. -/
theorem version_goesBack :
    (∀ v, HandedOut v → GoesBack v) ∧
      ∀ (c : Client) t d cs wire, c.TellsVersions t d cs wire := by
  have htells (c : Client) (t d : String) (cs : List Credential) (wire : Wire) :=
    Client.update_tellsVersions c t d cs wire
  refine ⟨fun v h => ?_, htells⟩
  have hv := h.not_isForbidden
  refine ⟨?sent, ?client, ?endpoint, ?program⟩
  case sent =>
    intro c t d cs wire url reply rest hreaches hreply
    exact (htells c t d cs wire).carried v url reply rest hv hreaches hreply
  case client =>
    intro c t d cs wire
    exact (Client.update_asserts c t d cs wire hv).symm
  case endpoint =>
    intro c config r wire hput
    exact (Client.handle_asserts c config wire hput hv).symm
  case program =>
    intro w front rest o deviceId file tenant wire hfront hread
    exact run_asserts hread (read_assertion hfront hread v) hv wire

/-- The words that replace the credentials of a device by none. -/
def emptyingHere : List String := ["credentials", "set", "4711", "-t", "T", "-f", "a.json"]

/-- The version below a table goes back behind the other arguments, and a delete character does not
get as far as the server. -/
theorem version_goesBack_office :
    let fetching : Wire := ⟨[.response 200 [("ETag", " \"1\" ")] [0x5B, 0x5D]], []⟩
    let replaced := run office (emptyingHere ++ ["--if-match=\"1\""]) ⟨[.response 204 [] []], []⟩
    let forbidden := Client.upstream.update "T" "4711" [] (some "\x7f") ⟨[.closed], []⟩
    EndsInVersion (run office askingHere fetching).1.output "\"1\"" ∧
      replaced.2.sent.map (Sent.values · "if-match") = [["\"1\""]] ∧
      forbidden.1 = .error (.transport .header) ∧ forbidden.2 = ⟨[.closed], []⟩ := by
  intro fetching replaced forbidden
  have hread : Invocation.read office.env askingHere =
      .ok ⟨{}, .getCredentials "4711" (some "T")⟩ := by decide +kernel
  have htable : ({} : Options).format office.settings = .table := by decide +kernel
  have hshown : EndsInVersion (run office askingHere fetching).1.output "\"1\"" :=
    ⟨by decide, (Credential.grid []).text, by decide +kernel⟩
  have hhanded : HandedOut "\"1\"" := .program hread htable hshown
  obtain ⟨hback, htells⟩ := version_goesBack
  have hplain : Invocation.read office.env (emptyingHere ++ []) =
      .ok ⟨{}, .setCredentials "4711" "a.json" none (some "T")⟩ := by decide +kernel
  have hsends : (run office (emptyingHere ++ []) ⟨[.response 204 [] []], []⟩).2 ≠
      ⟨[.response 204 [] []], []⟩ := by decide +kernel
  have hmay : canAssert .root (.start .root) emptyingHere = true := by decide +kernel
  obtain ⟨hasserts, -, -⟩ := (hback _ hhanded).program office emptyingHere [] {} "4711" "a.json"
    (some "T") ⟨[.response 204 [] []], []⟩ hmay hplain
  obtain ⟨reply, rest, q, -, hleft, hvalues⟩ := hasserts.exists_sent hsends
  -- The other half: a version that no header may hold is refused before anything is sent.
  have hforbidden : IsForbidden "\x7f" := ⟨'\x7f', by decide, by decide, .inr rfl⟩
  obtain ⟨huntouched, herror⟩ :=
    (htells Client.upstream "T" "4711" [] ⟨[.closed], []⟩).forbidden _ hforbidden
  have hword : "--if-match=" ++ "\"1\"" = "--if-match=\"1\"" := by decide
  rw [hword] at hleft
  have hreplaced : replaced.2 = ⟨rest, [q]⟩ := hleft
  refine ⟨hshown, ?_, herror _ rfl, huntouched⟩
  rw [hreplaced]
  exact congrArg (fun values => [values]) hvalues

end CommandLine

end DeviceRegistry
