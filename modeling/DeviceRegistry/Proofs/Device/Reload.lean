import DeviceRegistry.Proofs.Device.Written
import DeviceRegistry.Proofs.Text.Order

/-!
# `DeviceRegistry.Proofs.Device.Reload`: a device is what its document says

Whatever was done to a device, it is read back from the value that is written for it. What is
written tells what is set and nothing else. Main statements:

* `step_isWellFormed`, `IsReachable.isWellFormed`: one operation, and whole histories.
* `decoder_ofValue_document`: a device is read back from its document.
* `exists_document_members`: the members of a document.
* `run_insert`, `trace_insert`: an operation that does nothing may be left out of a history.
* `reload_is_identity`: the reloads of a device with any history.
-/

set_option autoImplicit false

namespace DeviceRegistry

open DeviceRegistry.Json

variable {d : Device} {v : Value} {ms : Members} {name : String}

/-! ### Opaque members -/

/-- A document in normal form names every member once. Its members are in the order of their names,
and no name comes after itself. -/
theorem Json.Value.IsNormal.namesOnce (h : v.IsNormal) : v.NamesOnce := by
  rintro ms rfl
  exact Members.IsNormal.sorted h |>.nodup_names

/-- The members that a normal form gives a record are in normal form, also when an array gives them
by their places. -/
theorem Json.PlainRecord.isNormal_of_membersOf? {σ : Type} {r : PlainRecord σ} (hv : v.IsNormal)
    (h : r.membersOf? v = some ms) : ∀ m ∈ ms, m.2.IsNormal := by
  unfold membersOf? at h
  split at h
  · cases h
    exact (Members.isNormal_iff.1 hv).2
  · split at h
    · cases h
      exact fun m hm => Value.isNormal_array.1 hv _ (List.of_mem_zip hm).2
    · cases h
  · cases h

/-- Opaque members that a normal form has are in normal form, and so are those that it does not
have. -/
theorem Json.Members.Has.isNormal {inner : Members} (hms : ∀ m ∈ ms, m.2.IsNormal)
    (h : ms.Has name .object [] inner) : inner.IsNormal := by
  by_cases hnil : inner = []
  · rw [hnil]
    exact Members.isNormal_nil
  · exact hms _ (Members.mem_of_get? (h.get?_eq hnil))

namespace Device

/-! ### Operations -/

/-- The values that an operation brings along are in normal form: their objects are maps. -/
def Operation.BringsValues : Operation → Prop
  | .editExtensions edit => ∀ ms, Members.IsNormal ms → ∀ m ∈ edit ms, m.2.IsNormal
  | .putExtension _ v | .putDefault _ v | .ofValue v => v.IsNormal
  | _ => True

/-- A new device is well formed, as all of it is empty. -/
theorem isWellFormed_new : ({} : Device).IsWellFormed :=
  ⟨Members.isNormal_nil, Members.isNormal_nil, ⟨List.Pairwise.nil, by simp⟩,
    ⟨List.Pairwise.nil, by simp⟩⟩

/-- A device that is read from a value in normal form is well formed. Its sets were made when it was
read. -/
theorem isWellFormed_of_ofValue (hv : v.IsNormal) (h : decoder.ofValue v = .ok d) :
    d.IsWellFormed := by
  obtain ⟨ms, hms, hd⟩ := (decoder_ofValue_eq_ok_iff hv.namesOnce).1 h
  have hnormal := PlainRecord.isNormal_of_membersOf? hv hms
  obtain ⟨groups, -, hgroups⟩ := hd.memberOf
  obtain ⟨actors, -, hactors⟩ := hd.authorities
  exact {
    extensions := hd.extensions.isNormal hnormal
    defaults := hd.defaults.isNormal hnormal
    memberOf := ⟨hgroups.sorted, fun _ => Iff.rfl⟩
    authorities := ⟨hactors.sorted, fun _ => Iff.rfl⟩ }

/-- A setter of a relationship changes it or nothing. It is refused when the opposing one is set,
and the refusal comes first. -/
theorem relate_cases (field : String) (opposing : Device → List (String × List String))
    (names : List String) (put : Device → Device) (d : Device) :
    ((relate field opposing names put).run d).2 = d ∨
      ((relate field opposing names put).run d).2 = put d := by
  rw [relate_run]
  cases obstacle? names (opposing d) with
  | none => exact .inr rfl
  | some existing => exact .inl rfl

/-- A device that takes the place of another one was read, and is well formed by itself. -/
theorem takePlace_isWellFormed {read : Except Json.Error Device} (h : d.IsWellFormed)
    (hread : ∀ d', read = .ok d' → d'.IsWellFormed) :
    ((takePlace read).run d).2.IsWellFormed := by
  cases read with
  | ok d' => exact hread d' rfl
  | error e => exact h

/-- A setter of a relationship keeps a device well formed if what it puts in place does. -/
theorem relate_isWellFormed {field : String} {opposing : Device → List (String × List String)}
    {names : List String} {put : Device → Device} (h : d.IsWellFormed)
    (hput : (put d).IsWellFormed) : ((relate field opposing names put).run d).2.IsWellFormed := by
  rcases relate_cases field opposing names put d with hsame | hput'
  · rw [hsame]
    exact h
  · rw [hput']
    exact hput

/-- One operation keeps a device well formed, if the values that it brings along are in normal form.
They are maps in the program, so they cannot be otherwise. -/
theorem step_isWellFormed {op : Operation} (h : d.IsWellFormed) (hop : op.BringsValues) :
    (step d op).IsWellFormed := by
  -- An operation changes one part at most, or reads a device that is well formed by itself.
  have ⟨hextensions, hdefaults, hgroups, hactors⟩ := h
  cases op with
  | setEnabled _ | clearEnabled | setMapper _ =>
    exact ⟨hextensions, hdefaults, hgroups, hactors⟩
  | setVia names =>
    show ((setVia names).run d).2.IsWellFormed
    refine relate_isWellFormed h ?_
    exact ⟨hextensions, hdefaults, hgroups, hactors⟩
  | setViaGroups names =>
    show ((setViaGroups names).run d).2.IsWellFormed
    refine relate_isWellFormed h ?_
    exact ⟨hextensions, hdefaults, hgroups, hactors⟩
  | setMemberOf names =>
    show ((setMemberOf names).run d).2.IsWellFormed
    refine relate_isWellFormed h ?_
    exact ⟨hextensions, hdefaults, isSetOf_self_nameSet names, hactors⟩
  | setAuthorities names => exact ⟨hextensions, hdefaults, hgroups, isSetOf_self_nameSet names⟩
  | editExtensions edit =>
    refine ⟨Members.isNormal_iff.2 ⟨Members.sorted_sort _, fun m hm => ?_⟩, hdefaults, hgroups,
      hactors⟩
    exact hop _ hextensions m (Members.mem_of_mem_sort hm)
  | putExtension name v => exact ⟨hextensions.insert hop, hdefaults, hgroups, hactors⟩
  | removeExtension name => exact ⟨hextensions.filter _, hdefaults, hgroups, hactors⟩
  | putDefault name v => exact ⟨hextensions, hdefaults.insert hop, hgroups, hactors⟩
  | ofValue v =>
    exact takePlace_isWellFormed h fun _ hd =>
      isWellFormed_of_ofValue hop (except_mapError_eq_ok.1 hd)
  | reload | ofBytes _ =>
    exact takePlace_isWellFormed h fun _ hd => (isStorable_of_ofBytes hd).isWellFormed

/-- A device that was new or read at first, whatever was done to it since. -/
inductive IsReachable : Device → Prop
  | new : IsReachable {}
  | ofValue {v : Value} {d : Device} (hv : v.IsNormal) (h : decoder.ofValue v = .ok d) :
      IsReachable d
  | ofBytes {text : List UInt8} {d : Device} (h : decoder.ofBytes text = .ok d) : IsReachable d
  | step {d : Device} {op : Operation} (h : IsReachable d) (hop : op.BringsValues) :
      IsReachable (step d op)

/-- What can be reached goes on to be reached by further operations. -/
theorem IsReachable.run {ops : List Operation} (h : d.IsReachable)
    (hops : ∀ op ∈ ops, op.BringsValues) : (run d ops).IsReachable := by
  induction ops generalizing d with
  | nil => exact h
  | cons op ops ih =>
    obtain ⟨hop, hops⟩ := List.forall_mem_cons.1 hops
    exact ih (h.step hop) hops

/-- What every device has in common, by induction on how it came about. -/
theorem IsReachable.isWellFormed (h : d.IsReachable) : d.IsWellFormed ∧ d.Consistent := by
  induction h with
  | new => exact ⟨isWellFormed_new, .inl rfl⟩
  | ofValue hv h => exact ⟨isWellFormed_of_ofValue hv h, consistent_of_ofValue h⟩
  | ofBytes h => exact ⟨(isStorable_of_ofBytes h).isWellFormed, consistent_of_ofBytes h⟩
  | step _ hop ih => exact ⟨step_isWellFormed ih.1 hop, step_consistent ih.2 _⟩

/-! ### What is written -/

/-- A device is read back from its document, whatever its numbers are and however deep it is: no
text stands in between. -/
theorem decoder_ofValue_document (h : d.IsWellFormed) (hconsistent : d.Consistent) :
    decoder.ofValue d.document.normalize = .ok d := by
  have hnormal := Value.isNormal_normalize d.document
  refine (decoder_ofValue_eq_ok_iff hnormal.namesOnce).2
    ⟨_, ?_, describedBy_document h hconsistent⟩
  rw [document_eq, Members.normalize_object]
  rfl

/-- What the document of a device tells: what is set, and what is not empty. -/
inductive Tells (d : Device) : (name : String) → Value → Prop
  | enabled {b : Bool} (h : d.enabled = some b) : Tells d "enabled" (.bool b)
  | extensions (h : d.extensions ≠ []) : Tells d "ext" (.object d.extensions)
  | defaults (h : d.defaults ≠ []) : Tells d "defaults" (.object d.defaults)
  | via (h : d.via ≠ []) : Tells d "via" (.array (d.via.map .string))
  | viaGroups (h : d.viaGroups ≠ []) : Tells d "viaGroups" (.array (d.viaGroups.map .string))
  | memberOf (h : d.memberOf ≠ []) : Tells d "memberOf" (.array (d.memberOf.map .string))
  | mapper {name : String} (h : d.mapper = some name) : Tells d "mapper" (.string name)
  | authorities (h : d.authorities ≠ []) :
      Tells d "authorities" (.array (d.authorities.map .string))

/-- What a document tells is what its fields are written as, in normal form. The opaque members of a
device are in normal form already. -/
theorem tells_iff (h : d.IsWellFormed) :
    d.Tells name v ↔ ∃ w, (name, some w) ∈ d.fieldValues ∧ w.normalize = v := by
  constructor
  · intro ht
    cases ht with
    | enabled hset => exact ⟨.bool _, by simp [fieldValues, hset], rfl⟩
    | mapper hset => exact ⟨.string _, by simp [fieldValues, hset], rfl⟩
    | extensions hne => exact ⟨_, by simp [fieldValues, unlessNil, hne], h.extensions.normalize⟩
    | defaults hne => exact ⟨_, by simp [fieldValues, unlessNil, hne], h.defaults.normalize⟩
    | via hne | viaGroups hne | memberOf hne | authorities hne =>
      exact ⟨listed _, by simp [fieldValues, unlessNil, hne], normalize_listed _⟩
  · rintro ⟨w, hw, rfl⟩
    simp only [fieldValues, List.mem_cons, List.not_mem_nil, or_false, Prod.mk.injEq] at hw
    -- The eight fields of the document, in its order, each of which says something when it is
    -- there.
    rcases hw with ⟨rfl, h'⟩ | ⟨rfl, h'⟩ | ⟨rfl, h'⟩ | ⟨rfl, h'⟩ | ⟨rfl, h'⟩ | ⟨rfl, h'⟩ |
      ⟨rfl, h'⟩ | ⟨rfl, h'⟩
    · obtain ⟨b, hset, rfl⟩ := Option.map_eq_some_iff.1 h'.symm
      exact .enabled hset
    · obtain ⟨hne, rfl⟩ := unlessNil_eq_some.1 h'.symm
      rw [h.extensions.normalize]
      exact .extensions hne
    · obtain ⟨hne, rfl⟩ := unlessNil_eq_some.1 h'.symm
      rw [h.defaults.normalize]
      exact .defaults hne
    · obtain ⟨hne, rfl⟩ := unlessNil_eq_some.1 h'.symm
      rw [normalize_listed]
      exact .via hne
    · obtain ⟨hne, rfl⟩ := unlessNil_eq_some.1 h'.symm
      rw [normalize_listed]
      exact .viaGroups hne
    · obtain ⟨hne, rfl⟩ := unlessNil_eq_some.1 h'.symm
      rw [normalize_listed]
      exact .memberOf hne
    · obtain ⟨name, hset, rfl⟩ := Option.map_eq_some_iff.1 h'.symm
      exact .mapper hset
    · obtain ⟨hne, rfl⟩ := unlessNil_eq_some.1 h'.symm
      rw [normalize_listed]
      exact .authorities hne

/-- The members of a document are what it tells, sorted by name. Nothing else is written, and
nothing is written twice. -/
theorem exists_document_members (h : d.IsWellFormed) :
    ∃ ms, d.document.normalize = .object ms ∧ Members.Sorted ms ∧
      ∀ name v, (name, v) ∈ ms ↔ d.Tells name v := by
  refine ⟨Members.normalForm (Members.ofOptional d.fieldValues), ?_, Members.sorted_sort _, ?_⟩
  · rw [document_eq, Members.normalize_object]
  · intro name v
    rw [tells_iff h, Members.mem_normalForm_ofOptional_iff (nodup_fieldValues d)]

/-- The names of a set are written in the order of their bytes, none of them twice. Texts are
compared by their characters, which UTF-8 keeps in order. -/
theorem bytes_pairwise {names : List String} (h : IsSetOf names names) :
    names.Pairwise fun a b => Text.bytes a < Text.bytes b :=
  h.sorted.imp Text.bytes_lt

/-! ### Reloads -/

/-- An operation that writes a device and reads what was written: as a value, or as a text, when
all numbers in it are whole and it is not too deep to be read. -/
inductive Operation.Reloads (d : Device) : Operation → Prop
  | value : Reloads d (.ofValue d.document.normalize)
  | text (hwhole : d.document.IsWhole) (hlevels : d.document.levels ≤ greatestDepth) :
      Reloads d .reload

/-- A device whose document is not too deep can be read back from it, as its opaque members are
parts of the document. -/
theorem isStorable_of_levels (h : d.IsWellFormed) (hconsistent : d.Consistent)
    (hlevels : d.document.levels ≤ greatestDepth) : d.IsStorable := by
  rw [document_eq, greatestDepth, Value.levels_object_le_iff] at hlevels
  have hopaque : ∀ (name : String) {ms : Members}, ms.IsNormal →
      (name, unlessNil .object ms) ∈ d.fieldValues → ms.IsShallow 126 := by
    intro name ms hms hmem
    by_cases hnil : ms = []
    · rw [hnil]
      exact Members.isShallow_nil
    · rw [unlessNil, if_neg hnil] at hmem
      exact ⟨hms, hlevels (name, .object ms) (Members.mem_ofOptional_iff.2 hmem)⟩
  exact {
    extensions := hopaque "ext" h.extensions (by simp [fieldValues])
    defaults := hopaque "defaults" h.defaults (by simp [fieldValues])
    memberOf := h.memberOf
    authorities := h.authorities
    consistent := hconsistent }

/-- A reload says nothing and changes nothing, since the device that is read is the one that was
written. It needs a consistent device, as reading would refuse any other. -/
theorem Operation.Reloads.perform {op : Operation} (hop : op.Reloads d) (h : d.IsWellFormed)
    (hconsistent : d.Consistent) : (perform op).run d = (.ok (), d) := by
  cases hop with
  | value =>
    have hread := decoder_ofValue_document h hconsistent
    rw [Device.perform, hread]
    rfl
  | text hwhole hlevels =>
    have htext : d.document.render.toList = d.document.chars ++ [] := by
      rw [Value.render, String.toList_ofList, List.append_nil]
    have hread : d.reload = .ok d := decoder_ofBytes_of_laidOut
      (isStorable_of_levels h hconsistent hlevels) hwhole (laidOut_chars _) areBlank_nil htext
    show (takePlace d.reload).run d = _
    rw [hread]
    rfl

/-! ### Histories -/

variable {before after : List Operation} {op : Operation}

/-- An operation that changes nothing may be left out of a history. -/
theorem run_insert (h : (perform op).run (run d before) = (.ok (), run d before)) :
    run d (before ++ op :: after) = run d (before ++ after) := by
  have hstep : step (run d before) op = run d before := by rw [step, h]
  rw [run, run, List.foldl_append, List.foldl_append, List.foldl_cons]
  exact congrArg (fun d => after.foldl step d) hstep

/-- What the other operations say and leave behind is the same without it. The induction is on the
operations that come before it. -/
theorem trace_insert (h : (perform op).run (run d before) = (.ok (), run d before)) :
    trace d (before ++ op :: after) =
      (trace d (before ++ after)).map (·.insertIdx before.length (none, run d before)) := by
  -- Along the operations that come first, each of which hands its device on to the rest.
  induction before generalizing d with
  | nil =>
    have hop : (perform op).run d = (.ok (), d) := h
    rw [List.nil_append, trace, hop]
    rfl
  | cons first before ih =>
    obtain ⟨said, d', hfirst⟩ : ∃ said d', (perform first).run d = (said, d') := ⟨_, _, rfl⟩
    have hrun : run d (first :: before) = run d' before := by
      rw [run, List.foldl_cons, step, hfirst]
      rfl
    rw [hrun] at h ⊢
    rw [List.cons_append, List.cons_append, trace, trace, hfirst]
    -- The history goes on unless there is nothing to be read.
    rcases said with ⟨e | e⟩ | ⟨⟩
    · dsimp only
      rw [ih h]
      cases trace d' (before ++ after) <;> rfl
    · rfl
    · dsimp only
      rw [ih h]
      cases trace d' (before ++ after) <;> rfl

/-- Reloading a device is the identity, whatever was done to it:

* It is read back from the value that is written for it.
* What is written has a member for a flag and a mapper that are set and for whatever is not empty,
  and no other members. Sets are written in the order of the bytes of their names, none twice.
* A reload at any place of a history says nothing and changes neither what is left in the end nor
  what any other operation says and leaves behind. -/
theorem reload_is_identity :
    (∀ d : Device, d.IsReachable → decoder.ofValue d.document.normalize = .ok d) ∧
    (∀ d : Device, d.IsReachable →
      (∃ ms, d.document.normalize = .object ms ∧ Members.Sorted ms ∧
        ∀ name v, (name, v) ∈ ms ↔ d.Tells name v) ∧
      d.memberOf.Pairwise (fun a b => Text.bytes a < Text.bytes b) ∧
      d.authorities.Pairwise fun a b => Text.bytes a < Text.bytes b) ∧
    ∀ d before op after, IsReachable d → (∀ o ∈ before, Operation.BringsValues o) →
      op.Reloads (run d before) →
        (perform op).run (run d before) = (.ok (), run d before) ∧
        run d (before ++ op :: after) = run d (before ++ after) ∧
        trace d (before ++ op :: after) =
          (trace d (before ++ after)).map (·.insertIdx before.length (none, run d before)) := by
  refine ⟨fun d h => ?_, fun d h => ?_, fun d before op after h hbefore hop => ?_⟩
  · exact decoder_ofValue_document h.isWellFormed.1 h.isWellFormed.2
  · have hformed := h.isWellFormed.1
    exact ⟨exists_document_members hformed, bytes_pairwise hformed.memberOf,
      bytes_pairwise hformed.authorities⟩
  · obtain ⟨hformed, hconsistent⟩ := (h.run hbefore).isWellFormed
    have hidle := hop.perform hformed hconsistent
    exact ⟨hidle, run_insert hidle, trace_insert hidle⟩

/-- What is done to a device behind two gateways, one of them named twice. -/
def behindGateways : List Operation :=
  [.setVia ["b", "a", "b"], .setMemberOf ["g"], .setEnabled false,
    .setAuthorities ["z", "\u00E9", "z"], .putExtension "tag" (.object [("x", .null)])]

/-- The device is read back before it leaves its gateways, and nothing else changes. The groups that
it was refused are not in its document. -/
theorem reload_is_identity_behindGateways :
    decoder.ofValue (run {} behindGateways).document.normalize = .ok (run {} behindGateways) ∧
    (run {} behindGateways).document.normalize = .object
      [("authorities", .array [.string "z", .string "\u00E9"]), ("enabled", .bool false),
        ("ext", .object [("tag", .object [("x", .null)])]),
        ("via", .array [.string "b", .string "a", .string "b"])] ∧
    trace {} (behindGateways ++ .reload :: [.setVia [], .setMemberOf ["g"]]) =
      (trace {} (behindGateways ++ [.setVia [], .setMemberOf ["g"]])).map
        (·.insertIdx 5 (none, run {} behindGateways)) := by
  obtain ⟨hread, -, hinsert⟩ := reload_is_identity
  have hvalues : ∀ op ∈ behindGateways, op.BringsValues := by
    have hvalue : (Value.object [("x", .null)]).IsNormal := Members.isNormal_singleton trivial
    simpa [behindGateways, Operation.BringsValues] using hvalue
  have hreachable := IsReachable.new.run hvalues
  have hdocument : (run {} behindGateways).document.normalize = .object
      [("authorities", .array [.string "z", .string "\u00E9"]), ("enabled", .bool false),
        ("ext", .object [("tag", .object [("x", .null)])]),
        ("via", .array [.string "b", .string "a", .string "b"])] := by
    decide +kernel
  refine ⟨hread _ hreachable, hdocument, ?_⟩
  -- The device is small enough to be read back from its text.
  have hreload : Operation.Reloads (run {} behindGateways) .reload := by
    have hwritten : (run {} behindGateways).document = .object
        [("enabled", .bool false), ("ext", .object [("tag", .object [("x", .null)])]),
          ("via", .array [.string "b", .string "a", .string "b"]),
          ("authorities", .array [.string "z", .string "\u00E9"])] := by
      decide +kernel
    refine .text ?_ (by decide +kernel)
    rw [hwritten]
    simp [Value.IsWhole, Value.MembersWhole, Value.AllWhole]
  exact (hinsert _ _ _ _ .new hvalues hreload).2.2

end Device

end DeviceRegistry
