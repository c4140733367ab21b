import DeviceRegistry.Device.Operation
import DeviceRegistry.Proofs.Device.Names
import DeviceRegistry.Proofs.Json.Decoder
import DeviceRegistry.Proofs.Json.Reader

/-!
# `DeviceRegistry.Proofs.Device.Consistent`: no device is both a member and behind gateways

A setter of a relationship looks at the opposing relationships only, so that a device stays
consistent when it was consistent before. Main statements:

* `setVia_run`, `setViaGroups_run`, `setMemberOf_run`: all that a setter does.
* `toDevice_eq_ok_iff`: the drafts that are devices.
* `step_consistent`, `run_consistent`: one operation, and whole histories.
* `relationships_exclude`: the relationships of a device with any history.
-/

set_option autoImplicit false

namespace DeviceRegistry

open DeviceRegistry.Json (Value)

namespace Device

variable {d : Device} {field : String} {names : List String} {put : Device → Device}
  {opposing : Device → List (String × List String)}

/-! ### Setters -/

/-- All setters do the same: they fail and leave the device as it is where something is in the way,
or put what they are given in its place. -/
theorem relate_run : (relate field opposing names put).run d =
    match obstacle? names (opposing d) with
    | some existing => (.error (.mutuallyExclusive existing field), d)
    | none => (.ok (), put d) := by
  show (match obstacle? names (opposing d) with
    | some existing => throw (.mutuallyExclusive existing field)
    | none => set (put d) : Change RegistryError Unit).run d = _
  cases obstacle? names (opposing d) with
  | none => rfl
  | some existing => rfl

/-- Gateways are refused when the device belongs to groups. Taking all gateways away is never
refused. -/
theorem setVia_run : (setVia names).run d =
    if names ≠ [] ∧ d.memberOf ≠ [] then (.error (.mutuallyExclusive "memberOf" "via"), d)
    else (.ok (), { d with via := names }) := by
  rw [setVia, relate_run]
  by_cases hnames : names = [] <;> by_cases hmember : d.memberOf = [] <;>
    simp [obstacle?, hnames, hmember]

/-- Groups of gateways are refused when the device belongs to groups, as gateways are. -/
theorem setViaGroups_run : (setViaGroups names).run d =
    if names ≠ [] ∧ d.memberOf ≠ [] then (.error (.mutuallyExclusive "memberOf" "viaGroups"), d)
    else (.ok (), { d with viaGroups := names }) := by
  rw [setViaGroups, relate_run]
  by_cases hnames : names = [] <;> by_cases hmember : d.memberOf = [] <;>
    simp [obstacle?, hnames, hmember]

/-- Groups are refused when the device is behind gateways, or else behind groups of them. The first
obstacle is the one that is named. -/
theorem setMemberOf_run : (setMemberOf names).run d =
    if names ≠ [] ∧ d.via ≠ [] then (.error (.mutuallyExclusive "via" "memberOf"), d)
    else if names ≠ [] ∧ d.viaGroups ≠ [] then
      (.error (.mutuallyExclusive "viaGroups" "memberOf"), d)
    else (.ok (), { d with memberOf := nameSet names }) := by
  rw [setMemberOf, relate_run]
  by_cases hnames : names = [] <;> by_cases hvia : d.via = [] <;>
    by_cases hgroups : d.viaGroups = [] <;> simp [obstacle?, hnames, hvia, hgroups]

/-! ### Drafts -/

section

variable {ε α β : Type} {d' : Device} {c : Change ε α} {f : α → Change ε β}

/-- What comes after a change that succeeds goes on with the device that it leaves behind. -/
theorem bind_run_of_ok {a : α} (h : c.run d = (.ok a, d')) : (c >>= f).run d = (f a).run d' := by
  rw [ExceptT.run_bind]
  dsimp only [bind, StateT.bind]
  rw [h]

/-- Nothing comes after a change that is refused, and the device is left as the change leaves it. -/
theorem bind_run_of_error {e : ε} (h : c.run d = (.error e, d')) :
    (c >>= f).run d = (.error e, d') := by
  rw [ExceptT.run_bind]
  dsimp only [bind, StateT.bind]
  rw [h]
  rfl

end

/-- A draft is a device when its own relationships do not exclude each other: nothing stands in the
way of those that are set first, as the device that is filled belongs to no groups. -/
theorem toDevice_eq_ok_iff {draft : DeviceDraft} :
    draft.toDevice = .ok d ↔
      (draft.memberOf = [] ∨ (draft.via = [] ∧ draft.viaGroups = [])) ∧
      d = {
        enabled := draft.enabled
        extensions := draft.extensions
        defaults := draft.defaults
        via := draft.via
        viaGroups := draft.viaGroups
        memberOf := nameSet draft.memberOf
        mapper := draft.mapper
        authorities := nameSet draft.authorities } := by
  let unrelated : Device :=
    { enabled := draft.enabled
      extensions := draft.extensions
      defaults := draft.defaults
      mapper := draft.mapper }
  let behind : Device := { unrelated with via := draft.via, viaGroups := draft.viaGroups }
  -- A device starts without relationships, so the first two are set without a conflict. Only the
  -- third can meet one.
  have hvia : (setVia draft.via).run unrelated = (.ok (), { unrelated with via := draft.via }) := by
    rw [setVia_run, if_neg fun h => h.2 rfl]
  have hgroups : (setViaGroups draft.viaGroups).run { unrelated with via := draft.via } =
      (.ok (), behind) := by
    rw [setViaGroups_run, if_neg fun h => h.2 rfl]
  have hfill : draft.fill.run unrelated =
      (setMemberOf draft.memberOf >>= fun _ =>
        modify (setAuthorities draft.authorities)).run behind := by
    rw [DeviceDraft.fill, bind_run_of_ok hvia, bind_run_of_ok hgroups]
  unfold DeviceDraft.toDevice
  dsimp only
  rw [hfill]
  by_cases hmember : draft.memberOf = [] ∨ (draft.via = [] ∧ draft.viaGroups = [])
  · have hset : (setMemberOf draft.memberOf).run behind =
        (.ok (), { behind with memberOf := nameSet draft.memberOf }) := by
      rw [setMemberOf_run, if_neg, if_neg]
      · rintro ⟨hnames, hviaGroups⟩
        exact hmember.elim hnames fun h => hviaGroups h.2
      · rintro ⟨hnames, hvia⟩
        exact hmember.elim hnames fun h => hvia h.1
    rw [bind_run_of_ok hset]
    show Except.ok _ = .ok d ↔ _
    rw [Except.ok.injEq, eq_comm]
    exact (and_iff_right hmember).symm
  · obtain ⟨e, hset⟩ : ∃ e, (setMemberOf draft.memberOf).run behind = (.error e, behind) := by
      rw [not_or, not_and] at hmember
      rw [setMemberOf_run]
      by_cases hvia : draft.via = []
      · rw [if_neg fun h => h.2 hvia, if_pos ⟨hmember.1, hmember.2 hvia⟩]
        exact ⟨_, rfl⟩
      · rw [if_pos ⟨hmember.1, hvia⟩]
        exact ⟨_, rfl⟩
    rw [bind_run_of_error hset]
    simp [hmember]

/-- The device of a draft is consistent, since a draft that excludes itself is no device. -/
theorem consistent_of_toDevice {draft : DeviceDraft} (h : draft.toDevice = .ok d) :
    d.Consistent := by
  obtain ⟨hmember, rfl⟩ := toDevice_eq_ok_iff.1 h
  exact hmember.imp (isSetOf_nameSet draft.memberOf).eq_nil_iff.2 id

/-! ### Devices that are read -/

/-- A device that is read from a document is consistent, since it is made of a draft. -/
theorem consistent_of_ofValue {v : Value} (h : decoder.ofValue v = .ok d) : d.Consistent := by
  obtain ⟨draft, -, h⟩ := except_bind_eq_ok.1 h
  exact consistent_of_toDevice (except_mapError_eq_ok.1 h)

/-- A device that is read from a text is consistent, for the same reason. -/
theorem consistent_of_ofBytes {text : List UInt8} (h : decoder.ofBytes text = .ok d) :
    d.Consistent := by
  obtain ⟨c, hread, -⟩ := Json.readAll_eq_ok_iff.1 h
  obtain ⟨draft, -, h⟩ := Json.Decoder.convert_ofText_eq_ok_iff.1 hread
  exact consistent_of_toDevice (except_mapError_eq_ok.1 h)

/-! ### Operations -/

/-- Setting gateways keeps a device consistent: it is refused, or the device belongs to no groups,
or there are no gateways to set. -/
theorem setVia_consistent (h : d.Consistent) : ((setVia names).run d).2.Consistent := by
  rw [setVia_run]
  by_cases hrefused : names ≠ [] ∧ d.memberOf ≠ []
  · rw [if_pos hrefused]
    exact h
  · rw [if_neg hrefused]
    by_cases hmember : d.memberOf = []
    · exact .inl hmember
    -- The device belongs to groups, so it is behind nothing, and no gateways are put in.
    · have hnames : names = [] := Classical.not_not.1 fun hnames => hrefused ⟨hnames, hmember⟩
      exact .inr ⟨hnames, (h.resolve_left hmember).2⟩

/-- Setting groups of gateways keeps a device consistent, as setting gateways does. It is refused
while the device is a member of groups, and then nothing changes. -/
theorem setViaGroups_consistent (h : d.Consistent) :
    ((setViaGroups names).run d).2.Consistent := by
  rw [setViaGroups_run]
  by_cases hrefused : names ≠ [] ∧ d.memberOf ≠ []
  · rw [if_pos hrefused]
    exact h
  · rw [if_neg hrefused]
    by_cases hmember : d.memberOf = []
    · exact .inl hmember
    · have hnames : names = [] := Classical.not_not.1 fun hnames => hrefused ⟨hnames, hmember⟩
      exact .inr ⟨(h.resolve_left hmember).1, hnames⟩

/-- Setting groups keeps a device consistent: it is refused unless both of the opposing
relationships are empty, or there are no groups to set. -/
theorem setMemberOf_consistent (h : d.Consistent) :
    ((setMemberOf names).run d).2.Consistent := by
  rw [setMemberOf_run]
  by_cases hvia : names ≠ [] ∧ d.via ≠ []
  · rw [if_pos hvia]
    exact h
  · rw [if_neg hvia]
    by_cases hgroups : names ≠ [] ∧ d.viaGroups ≠ []
    · rw [if_pos hgroups]
      exact h
    · rw [if_neg hgroups]
      by_cases hnames : names = []
      · exact .inl ((isSetOf_nameSet names).eq_nil_iff.2 hnames)
      · exact .inr ⟨Classical.not_not.1 fun hne => hvia ⟨hnames, hne⟩,
          Classical.not_not.1 fun hne => hgroups ⟨hnames, hne⟩⟩

/-- A device takes the place of another one only if it was read, and it is consistent by itself
then. -/
theorem takePlace_consistent {read : Except Json.Error Device} (h : d.Consistent)
    (hread : ∀ d', read = .ok d' → d'.Consistent) : ((takePlace read).run d).2.Consistent := by
  cases read with
  | ok d' => exact hread d' rfl
  | error e => exact h

/-- One operation keeps a device consistent. Most of them do not touch a relationship; the others
have been looked at one by one. -/
theorem step_consistent (h : d.Consistent) (op : Operation) : (step d op).Consistent := by
  cases op with
  | setEnabled _ | clearEnabled | editExtensions _ | putExtension _ _ | removeExtension _
  | putDefault _ _ | setMapper _ | setAuthorities _ => exact h
  | setVia names => exact setVia_consistent h
  | setViaGroups names => exact setViaGroups_consistent h
  | setMemberOf names => exact setMemberOf_consistent h
  | reload => exact takePlace_consistent h fun d' => consistent_of_ofBytes
  | ofValue v =>
    exact takePlace_consistent h fun d' hd => consistent_of_ofValue (except_mapError_eq_ok.1 hd)
  | ofBytes text => exact takePlace_consistent h fun d' => consistent_of_ofBytes

/-- A setter of a relationship that refuses leaves the device alone, as it looks for obstacles
before it changes anything. -/
theorem relate_of_error {e : RegistryError}
    (h : ((relate field opposing names put).run d).1 = .error e) :
    ((relate field opposing names put).run d).2 = d := by
  rw [relate_run] at h ⊢
  cases hobstacle : obstacle? names (opposing d) with
  | none =>
    rw [hobstacle] at h
    cases h
  | some existing => rfl

/-- What is refused leaves the device alone. Only setters of relationships and readers can be
refused, and readers give a whole device or none. -/
theorem step_of_error {op : Operation} {e : Refusal} (h : ((perform op).run d).1 = .error e) :
    step d op = d := by
  -- A refused relationship leaves the device as it was, and a device that cannot be read takes no
  -- place.
  have hrelate : ∀ {field opposing names put},
      ((relate field opposing names put).adapt Refusal.rule |>.run d).1 = .error e →
      ((relate field opposing names put).run d).2 = d := by
    intro field opposing names put h
    have hmap : ((relate field opposing names put).run d).1.mapError Refusal.rule = .error e := h
    cases hsaid : ((relate field opposing names put).run d).1 with
    | ok u =>
      rw [hsaid] at hmap
      cases hmap
    | error err => exact relate_of_error hsaid
  have htake : ∀ {read : Except Json.Error Device},
      ((takePlace read).run d).1 = .error e → ((takePlace read).run d).2 = d := by
    intro read h
    cases read with
    | ok d' => cases h
    | error err => rfl
  cases op with
  | setEnabled _ | clearEnabled | editExtensions _ | putExtension _ _ | removeExtension _
  | putDefault _ _ | setMapper _ | setAuthorities _ => cases h
  | setVia names | setViaGroups names | setMemberOf names => exact hrelate h
  | reload | ofValue v | ofBytes text => exact htake h

/-! ### Histories -/

/-- Whatever is done to a device, it stays consistent. By induction on the operations, each of which
keeps it so. -/
theorem run_consistent (h : d.Consistent) (ops : List Operation) : (run d ops).Consistent := by
  induction ops generalizing d with
  | nil => exact h
  | cons op ops ih => exact ih (step_consistent h op)

/-- The relationships of a device exclude each other, whatever was done to it. A setter is refused
for an obstacle only and then changes nothing; else it changes its own relationship only. -/
theorem relationships_exclusive :
    (∀ ops, (run {} ops).Consistent) ∧
    (∀ d op e, ((perform op).run d).1 = .error e → step d op = d) ∧
    (∀ d names,
      (setVia names).run d =
        (if names ≠ [] ∧ d.memberOf ≠ [] then (.error (.mutuallyExclusive "memberOf" "via"), d)
        else (.ok (), { d with via := names })) ∧
      (setViaGroups names).run d =
        (if names ≠ [] ∧ d.memberOf ≠ [] then
          (.error (.mutuallyExclusive "memberOf" "viaGroups"), d)
        else (.ok (), { d with viaGroups := names })) ∧
      ∃ set, IsSetOf set names ∧
        (setMemberOf names).run d =
          (if names ≠ [] ∧ d.via ≠ [] then (.error (.mutuallyExclusive "via" "memberOf"), d)
          else if names ≠ [] ∧ d.viaGroups ≠ [] then
            (.error (.mutuallyExclusive "viaGroups" "memberOf"), d)
          else (.ok (), { d with memberOf := set })) ∧
        setAuthorities names d = { d with authorities := set }) ∧
    (∀ d, (setVia []).run d = (.ok (), { d with via := [] }) ∧
      (setViaGroups []).run d = (.ok (), { d with viaGroups := [] }) ∧
      (setMemberOf []).run d = (.ok (), { d with memberOf := [] })) := by
  refine ⟨run_consistent (.inl rfl), fun d op e => step_of_error, fun d names => ?_, fun d => ?_⟩
  · exact ⟨setVia_run, setViaGroups_run, _, isSetOf_nameSet names, setMemberOf_run, rfl⟩
  · rw [setVia_run, setViaGroups_run, setMemberOf_run]
    simp [nameSet]

/-- A member of a group gets no gateways, before it leaves the group. What was refused can be done
behind that, so the rule is on what a device has now and not on what it once had. -/
theorem relationships_exclusive_leave :
    ((perform (.setVia ["a"])).run { memberOf := ["g"] }).1 =
      .error (.rule (.mutuallyExclusive "memberOf" "via")) ∧
    step { memberOf := ["g"] } (.setVia ["a"]) = { memberOf := ["g"] } ∧
    (run {} [.setMemberOf ["g"], .setVia ["a"], .setMemberOf [], .setVia ["a"]]).via = ["a"] ∧
    (run {} [.setMemberOf ["g"], .setVia ["a"], .setMemberOf [], .setVia ["a"]]).Consistent := by
  obtain ⟨hruns, hrefused, -, -⟩ := relationships_exclusive
  have herror : ((perform (.setVia ["a"])).run { memberOf := ["g"] }).1 =
      .error (.rule (.mutuallyExclusive "memberOf" "via")) := rfl
  exact ⟨herror, hrefused _ _ _ herror, rfl, hruns _⟩

end Device

end DeviceRegistry
