import DeviceRegistry.Proofs.Credential.RoundTrip
import DeviceRegistry.Proofs.Time.Shortest

/-!
# `DeviceRegistry.Proofs.Credential.Kept`: what is kept of an object

What is stored of an object that is decoded can be said without decoding it. Of a credential whose
type the registry does not know, every member is kept as it is; of the other types only what their
records know. What means the same as nothing is dropped, and secrets are always there. Main
statements:

* `get?_keep`: what is kept under a name depends on the member of that name only.
* `PasswordSecret.normalize_document` and its companions: what is stored of a secret.
* `encoded_eq_kept`: what is stored of an object, in terms of its members.
* `encode_of_decode`: the same for the value, with how an instant is written.
-/

set_option autoImplicit false

namespace DeviceRegistry

open DeviceRegistry.Json

variable {α : Type} {k name : String} {v : Value} {ms : Members}

/-! ### Members that are kept -/

namespace Json.Members

/-- The members of which something is kept, with what is kept of their values. -/
def keep (part : String → Value → Option Value) (ms : Members) : Members :=
  ms.filterMap fun m => (part m.1 m.2).map fun v => (m.1, v)

variable {part : String → Value → Option Value}

/-- What is kept under a name depends on the member of that name only. The names have to be
different, since of two members with one name the first may be dropped and the second kept. -/
theorem get?_keep (hnodup : ms.names.Nodup) :
    (ms.keep part).get? k = (ms.get? k).bind (part k) := by
  induction ms with
  | nil => rfl
  | cons m ms ih =>
    rw [names_cons, List.nodup_cons] at hnodup
    have ih := ih hnodup.2
    rw [get?_cons]
    by_cases hk : m.1 = k
    · -- A dropped member leaves nothing behind, as no other member has its name.
      subst hk
      rw [if_pos rfl]
      cases hpart : part m.1 m.2 with
      | none =>
        rw [keep, List.filterMap_cons, hpart]
        show (keep part ms).get? m.1 = _
        rw [ih, get?_eq_none_iff.2 hnodup.1, Option.bind_some, hpart]
        rfl
      | some v =>
        rw [keep, List.filterMap_cons, hpart, Option.bind_some, hpart]
        show get? m.1 ((m.1, v) :: keep part ms) = _
        rw [get?_cons, if_pos rfl]
    · rw [if_neg hk, ← ih, keep, List.filterMap_cons]
      cases part m.1 m.2 with
      | none => rfl
      | some v =>
        show get? k ((m.1, v) :: keep part ms) = _
        rw [get?_cons, if_neg hk]

/-- Nothing is kept under a new name, and the order stays. -/
theorem names_keep_sublist (ms : Members) : List.Sublist (ms.keep part).names ms.names := by
  induction ms with
  | nil => exact List.Sublist.slnil
  | cons m ms ih =>
    rw [keep, List.filterMap_cons]
    cases part m.1 m.2 with
    | none => exact ih.cons _
    | some v => exact ih.cons_cons _

/-- So what is kept is in order when it was before. -/
theorem Sorted.keep (h : Sorted ms) : Sorted (ms.keep part) := by
  have hnames : ms.names.Pairwise (· < ·) := List.pairwise_map.2 h
  exact List.pairwise_map.1 (hnames.sublist (names_keep_sublist ms))

end Json.Members

/-! ### Secrets -/

/-- An instant as it is written in a document, in place of any text for it. -/
def utcText : Value → Value
  | .string s =>
    match Instant.parse s with
    | .ok t => .string t.render
    | .error _ => .string s
  | v => v

/-- The name of a function, also in place of an object that has it for a name. -/
def functionName : Value → Value
  | .object [(name, _)] => .string name
  | v => v

/-- How the value of a member of a secret is written. -/
def secretValue (name : String) (v : Value) : Value :=
  if name = "not-before" ∨ name = "not-after" then utcText v
  else if name = "hash-function" then functionName v
  else v

/-- What is kept of a member of a secret whose kind knows some names. -/
def secretPart (known : List String) (name : String) (v : Value) : Option Value :=
  if name ∈ known ∧ v ≠ .null then some (secretValue name v) else none

/-- The names that a password knows. -/
def PasswordSecret.names : List String :=
  SecretInfo.names ++ ["hash-function", "pwd-hash", "salt", "pwd-plain"]

/-- The names that a pre-shared key knows. -/
def PskSecret.names : List String := SecretInfo.names ++ ["key"]

/-- Texts are written as they were read, except where an instant is expected. -/
theorem secretValue_of_text {text : String} (h : name ≠ "not-before" ∧ name ≠ "not-after") :
    secretValue name (.string text) = .string text := by
  unfold secretValue
  rw [if_neg (by simp [h])]
  split <;> rfl

/-- An instant is written in the form of its own, whatever text it was read from. -/
theorem secretValue_instant {t : Instant} (hname : name = "not-before" ∨ name = "not-after")
    (h : instantDecoder.ofValue v = .ok t) : .string t.render = secretValue name v := by
  obtain ⟨text, rfl, htext⟩ := instantDecoder_eq_ok.1 h
  rw [secretValue, if_pos hname, utcText, htext]

/-- A function is written by its name. It may have been read from an object with this name and
`null`, too. -/
theorem secretValue_function {f : HashFunction} (h : HashFunction.decoder.ofValue v = .ok f) :
    .string f.name = secretValue "hash-function" v := by
  have hnamed {name : String} (h : Decoder.nameOf HashFunction.named name = .ok f) :
      f.name = name := by
    unfold Decoder.nameOf at h
    split at h
    · rename_i other g hfind
      cases h
      have hname : other = name := by simpa using List.find?_some hfind
      obtain ⟨g, -, hg⟩ := List.mem_map.1 (List.mem_of_find?_eq_some hfind)
      cases hg
      exact hname
    · cases h
  rw [secretValue, if_neg (by decide), if_pos rfl]
  -- A function is named by a string, or by an object with one member of that name.
  cases v with
  | string name => rw [hnamed h]; rfl
  | object members =>
    match members with
    | [] => cases h
    | [(name, value)] =>
      obtain ⟨g, hg, h⟩ := except_bind_eq_ok.1 h
      split at h
      · cases h
        rw [hnamed hg, functionName]
      · cases h
    | _ :: _ :: _ => cases h
  | _ => cases h

/-- What is written for optional data is what is kept of its member. It is not there when the member
is missing or `null`, and neither is kept. -/
theorem map_eq_secretPart {d : Decoder α} {write : α → Value} {o : Option α} {known : List String}
    (hname : name ∈ known) (h : ms.Reads name (.optional d) none o)
    (hwrite : ∀ v a, d.ofValue v = .ok a → write a = secretValue name v) :
    o.map write = (ms.get? name).bind (secretPart known name) := by
  cases hv : ms.get? name with
  | none =>
    rw [(Members.Reads.of_none hv).1 h]
    rfl
  | some v =>
    have hread := (Members.Reads.of_some hv).1 h
    rw [Option.bind_some, secretPart]
    cases o with
    | none => rw [Decoder.optional_eq_none.1 hread, if_neg (by simp), Option.map_none]
    | some a =>
      obtain ⟨hnull, ha⟩ := Decoder.optional_eq_some.1 hread
      rw [Option.map_some, hwrite v a ha, if_pos ⟨hname, hnull⟩]

/-- An optional text is written as what is kept of its member, which is all of it. -/
theorem map_string_eq_secretPart {o : Option String} {known : List String} (hname : name ∈ known)
    (hplain : name ≠ "not-before" ∧ name ≠ "not-after")
    (h : ms.Reads name (.optional .string) none o) :
    o.map .string = (ms.get? name).bind (secretPart known name) := by
  refine map_eq_secretPart hname h fun v text hv => ?_
  rw [Decoder.string_eq_ok.1 hv, secretValue_of_text hplain]

namespace SecretInfo

/-- What is written for the shared fields is what their members say. There are two instants among
them, and the others are written as they were read. -/
theorem get?_members {i : SecretInfo} {known : List String} (h : i.DescribedBy ms)
    (hknown : ∀ k ∈ names, k ∈ known) : ∀ k ∈ names,
      (Members.get? k (Members.present i.members.reverse)).map Value.normalize =
        (ms.get? k).bind (secretPart known k) := by
  have hid := map_string_eq_secretPart (hknown "id" (by decide)) (by decide) h.id
  have henabled : i.enabled.map Value.bool = _ :=
    map_eq_secretPart (hknown "enabled" (by decide)) h.enabled fun v b hv => by
      rw [Decoder.boolean_eq_ok.1 hv]
      rfl
  have hbefore : (i.notBefore.map fun t => Value.string t.render) = _ :=
    map_eq_secretPart (hknown "not-before" (by decide)) h.notBefore fun v t =>
      secretValue_instant (.inl rfl)
  have hafter : (i.notAfter.map fun t => Value.string t.render) = _ :=
    map_eq_secretPart (hknown "not-after" (by decide)) h.notAfter fun v t =>
      secretValue_instant (.inr rfl)
  have hcomment := map_string_eq_secretPart (hknown "comment" (by decide)) (by decide) h.comment
  simp [names, members, Function.comp_def, Value.normalize, ← hid, ← henabled, ← hbefore, ← hafter,
    ← hcomment]

/-- The shared fields are written under their own names only. So they never meet a member of another
field. -/
theorem mem_names_of_mem_members {i : SecretInfo} {m : String × Value}
    (hm : m ∈ Members.present i.members) : m.1 ∈ names := by
  obtain ⟨o, ho, rfl⟩ := List.mem_filterMap.1 hm
  simp only [members, List.mem_cons, List.not_mem_nil, or_false] at ho
  rcases ho with ho | ho | ho | ho | ho <;>
    obtain ⟨a, -, rfl⟩ := Option.map_eq_some_iff.1 ho.symm <;>
    simp [names]

end SecretInfo

/-- What is stored of a secret is what its members say, when that holds for the fields that it does
not share. Both sides are in order, so it is enough to compare them name by name. -/
theorem normalForm_eq_keep {i : SecretInfo} {own : List (Option (String × Value))}
    (ownNames : List String) (hms : ms.IsNormal) (hinfo : i.DescribedBy ms)
    (hown : ∀ m ∈ Members.present own, m.1 ∈ ownNames)
    (hapart : ∀ k ∈ ownNames, k ∉ SecretInfo.names)
    (h : ∀ k ∈ ownNames, (Members.get? k (Members.present own.reverse)).map Value.normalize =
      (ms.get? k).bind (secretPart (SecretInfo.names ++ ownNames) k)) :
    (Members.present (i.members ++ own)).normalForm =
      ms.keep (secretPart (SecretInfo.names ++ ownNames)) := by
  have habsent {l : List (Option (String × Value))} {known : List String}
      (hl : ∀ m ∈ Members.present l, m.1 ∈ known) {k : String} (hk : k ∉ known) :
      Members.get? k (Members.present l.reverse) = none := by
    refine Members.get?_eq_none_iff.2 fun hmem => ?_
    obtain ⟨m, hm, rfl⟩ := List.mem_map.1 hmem
    rw [Members.present, List.filterMap_reverse] at hm
    exact hk (hl m (List.mem_reverse.1 hm))
  -- Both sides are maps, and a name is known to the shared fields, to the own ones, or to none.
  refine Members.Sorted.ext (Members.isNormal_normalForm _).sorted hms.sorted.keep fun k => ?_
  rw [Members.get?_keep hms.sorted.nodup_names, Members.get?_normalForm_present,
    List.reverse_append, Members.present_append, Members.get?_append]
  by_cases hk : k ∈ ownNames
  · rw [habsent (fun m => SecretInfo.mem_names_of_mem_members) (hapart k hk), Option.or_none,
      h k hk]
  · rw [habsent hown hk, Option.none_or]
    by_cases hshared : k ∈ SecretInfo.names
    · exact SecretInfo.get?_members hinfo (fun _ => List.mem_append_left _) k hshared
    · have hpart : secretPart (SecretInfo.names ++ ownNames) k = fun _ => none := by
        funext v
        exact if_neg fun hv => (List.mem_append.1 hv.1).elim hshared hk
      rw [habsent (fun m => SecretInfo.mem_names_of_mem_members) hshared, hpart,
        Option.bind_fun_none, Option.map_none]

/-- What is stored of a password is what its members say, in the form that its own fields have. The
shared fields are added by the general lemma, so only the four own ones are gone through. -/
theorem PasswordSecret.normalize_document {s : PasswordSecret} (hms : ms.IsNormal)
    (h : s.DescribedBy ms) : s.document.normalize = .object (ms.keep (secretPart names)) := by
  have hfunction : (s.hashFunction.map fun f => Value.string f.name) = _ :=
    map_eq_secretPart (show _ ∈ names by decide) h.hashFunction fun v f => secretValue_function
  have hhash := map_string_eq_secretPart (show _ ∈ names by decide) (by decide) h.hash
  have hsalt := map_string_eq_secretPart (show _ ∈ names by decide) (by decide) h.salt
  have hplain := map_string_eq_secretPart (show _ ∈ names by decide) (by decide) h.plain
  rw [document, Value.normalize_ofPresent, names,
    normalForm_eq_keep ["hash-function", "pwd-hash", "salt", "pwd-plain"] hms h.info ?_
      (by decide) ?_]
  · intro m hm
    obtain ⟨o, ho, rfl⟩ := List.mem_filterMap.1 hm
    simp only [List.mem_cons, List.not_mem_nil, or_false] at ho
    rcases ho with ho | ho | ho | ho <;>
      obtain ⟨a, -, rfl⟩ := Option.map_eq_some_iff.1 ho.symm <;>
      simp
  · rw [names] at hfunction hhash hsalt hplain
    simp [Function.comp_def, Value.normalize, ← hfunction, ← hhash, ← hsalt, ← hplain]

/-- What is stored of a pre-shared key is what its members say. A key that is empty would be stored
where there is none, but such a key breaks a rule. -/
theorem PskSecret.normalize_document {s : PskSecret} (hms : ms.IsNormal) (h : s.DescribedBy ms)
    (hkey : s.key ≠ "") : s.document.normalize = .object (ms.keep (secretPart names)) := by
  have hmember : ms.get? "key" = some (.string s.key) := by
    cases hv : ms.get? "key" with
    | none => exact absurd ((Members.Reads.of_none hv).1 h.key) hkey
    | some v => rw [Decoder.string_eq_ok.1 ((Members.Reads.of_some hv).1 h.key)]
  rw [document, Value.normalize_ofPresent, names,
    normalForm_eq_keep ["key"] hms h.info ?_ (by decide) ?_]
  · intro m hm
    cases List.mem_singleton.1 hm
    simp
  · simp [hmember, Value.normalize, secretPart, secretValue]

/-- What is stored of the secret with a certificate is what its members say. It has no fields of its
own. -/
theorem CertificateSecret.normalize_document {s : CertificateSecret} (hms : ms.IsNormal)
    (h : s.DescribedBy ms) :
    s.document.normalize = .object (ms.keep (secretPart SecretInfo.names)) := by
  have hsame : (Members.present (s.info.members ++ [])).normalForm = _ :=
    normalForm_eq_keep [] hms h.info nofun nofun nofun
  rw [List.append_nil, List.append_nil] at hsame
  rw [document, Value.normalize_ofPresent, hsame]

/-! ### Lists of secrets -/

/-- What is written for the items of a list is what is made of those they were read from, if that
holds item by item. -/
theorem Json.Decoder.map_eq_of_itemsOf {β : Type} {d : Decoder α} {write : α → β}
    {rewrite : Value → β} {vs : List Value} {as : List α} (h : itemsOf d vs = .ok as)
    (hwrite : ∀ v ∈ vs, ∀ a ∈ as, d.ofValue v = .ok a → write a = rewrite v) :
    as.map write = vs.map rewrite := by
  induction vs generalizing as with
  | nil =>
    cases h
    rfl
  | cons v vs ih =>
    obtain ⟨a, ha, h⟩ := except_bind_eq_ok.1 h
    obtain ⟨as, has, h⟩ := except_bind_eq_ok.1 h
    cases h
    rw [List.map_cons, List.map_cons, hwrite v List.mem_cons_self a List.mem_cons_self ha,
      ih has fun w hw b hb => hwrite w (List.mem_cons_of_mem _ hw) b (List.mem_cons_of_mem _ hb)]

/-- What is kept of a secret whose kind knows some names. -/
def keepSecret (known : List String) : Value → Value
  | .object ms => .object (Members.keep (secretPart known) ms)
  | v => v

/-- What is kept of secrets whose kind knows some names. -/
def keepSecrets (known : List String) : Value → Value
  | .array vs => .array (vs.map (keepSecret known))
  | v => v

/-- What is stored of a list of secrets is what is kept of its member, and an empty list if there is
none. Whether there are secrets cannot be told afterwards from whether they were named. -/
theorem normalize_documents {r : Record α} {Describe : Members → α → Prop} {document : α → Value}
    {known : List String} {l : List α} (hms : ms.IsNormal) (hdescribes : r.Describes Describe)
    (h : ms.Reads name (.list r.decoder) [] l)
    (hdocument : ∀ ms a, Members.IsNormal ms → a ∈ l → Describe ms a →
      (document a).normalize = .object (Members.keep (secretPart known) ms)) :
    (Value.array (l.map document)).normalize =
      ((ms.get? name).map (keepSecrets known)).getD (.array []) := by
  cases hv : ms.get? name with
  | none =>
    rw [(Members.Reads.of_none hv).1 h]
    rfl
  | some v =>
    obtain ⟨vs, rfl, hitems⟩ := Decoder.list_eq_ok ((Members.Reads.of_some hv).1 h)
    have hnormal := Value.isNormal_array.1 (hms.value hv)
    rw [Value.normalize_array, List.map_map, Option.map_some, Option.getD_some, keepSecrets]
    refine congrArg Value.array (Decoder.map_eq_of_itemsOf hitems fun w hw a ha hread => ?_)
    obtain ⟨ms', rfl, hdescribe⟩ := (hdescribes.decoder_eq_ok_iff (hnormal w hw)).1 hread
    exact hdocument ms' a (hnormal _ hw) ha hdescribe

/-! ### Credentials -/

namespace Credential

/-- What is kept of a member of a credential: nothing where that means the same. -/
def part (name : String) (v : Value) : Option Value :=
  if (name, v) ∈ [("enabled", .null), ("comment", .null), ("ext", .object [])] then none else some v

/-- What is kept of a member of a credential whose secrets know some names. -/
def typedPart (known : List String) (name : String) (v : Value) : Option Value :=
  if name = "secrets" then some (keepSecrets known v)
  else if name ∈ Secrets.reservedNames then part name v
  else none

/-- What is kept of a member of a credential of a type. -/
def partOf (typeName : String) : String → Value → Option Value :=
  if typeName = Secrets.passwordType then typedPart PasswordSecret.names
  else if typeName = Secrets.pskType then typedPart PskSecret.names
  else if typeName = Secrets.certificateType then typedPart SecretInfo.names
  else part

/-- The members that are stored of an object. -/
def kept (ms : Members) : Members :=
  let typeName := ((ms.get? "type").bind Value.asString?).getD ""
  let members := Members.keep (partOf typeName) ms
  if (ms.get? "secrets").isSome then members else members.insert "secrets" (.array [])

variable {c : Credential}

/-- What is kept is in order, also when an empty list of secrets has been put in its place. -/
theorem sorted_kept (hms : ms.IsNormal) : Members.Sorted (kept ms) := by
  unfold kept
  dsimp only
  split
  · exact hms.sorted.keep
  · exact Members.sorted_insert hms.sorted.keep

/-- Secrets are never dropped, whatever the type is. What stands in them is kept by another rule,
for each secret. -/
theorem exists_partOf_secrets (typeName : String) (v : Value) :
    ∃ v', partOf typeName "secrets" v = some v' := by
  unfold partOf
  repeat' split
  all_goals exact ⟨_, rfl⟩

/-- The members that all credentials share are kept in the same way, since only secrets and members
without a meaning depend on the type. -/
theorem partOf_common {typeName : String}
    (hk : k ∈ ["type", "auth-id", "enabled", "comment", "ext"]) :
    partOf typeName k = part k := by
  have hsecrets : k ≠ "secrets" := by
    rintro rfl
    revert hk
    decide
  have hreserved : k ∈ Secrets.reservedNames := by
    simp only [List.mem_cons, List.not_mem_nil, or_false] at hk
    rcases hk with rfl | rfl | rfl | rfl | rfl <;> decide
  have htyped (known : List String) : typedPart known k = part k := by
    funext v
    rw [typedPart, if_neg hsecrets, if_pos hreserved]
  unfold partOf
  repeat' split
  all_goals first | exact htyped _ | rfl

/-- What is stored under a name is what is kept of its member, and secrets are always stored, as an
empty array where there were none. It reads the definition of the form that is kept, name by name.
-/
theorem get?_kept (hms : ms.IsNormal) (htype : ms.get? "type" = some (.string c.typeName)) :
    (kept ms).get? k = ((ms.get? k).bind (partOf c.typeName k)).or
      (if k = "secrets" then some (.array []) else none) := by
  have htypeName : ((ms.get? "type").bind Value.asString?).getD "" = c.typeName := by
    rw [htype]
    rfl
  unfold kept
  rw [htypeName]
  dsimp only
  -- Without secrets an empty list is put in their place. With any, something is kept of them.
  cases hsecrets : ms.get? "secrets" with
  | none =>
    rw [if_neg (by simp), Members.get?_insert, Members.get?_keep hms.sorted.nodup_names]
    by_cases hk : k = "secrets"
    · subst hk
      rw [if_pos rfl, if_pos rfl, hsecrets]
      rfl
    · rw [if_neg (Ne.symm hk), if_neg hk, Option.or_none]
  | some v =>
    rw [if_pos (by simp), Members.get?_keep hms.sorted.nodup_names]
    by_cases hk : k = "secrets"
    · subst hk
      obtain ⟨v', hv'⟩ := exists_partOf_secrets c.typeName v
      rw [hsecrets, Option.bind_some, hv', Option.some_or]
    · rw [if_neg hk, Option.or_none]

/-- What is written for optional data is what is kept of its member: nothing where it is missing or
`null`. It serves the fields that are written as they were read, with no form of their own. -/
theorem map_eq_part {d : Decoder α} {write : α → Value} {o : Option α}
    (h : ms.Reads name (.optional d) none o) (hwrite : ∀ v a, d.ofValue v = .ok a → write a = v)
    (hname : name = "enabled" ∨ name = "comment") :
    o.map write = (ms.get? name).bind (part name) := by
  -- A member that is null reads like one that is not there, and is not kept.
  cases hv : ms.get? name with
  | none =>
    rw [(Members.Reads.of_none hv).1 h]
    rfl
  | some v =>
    have hread := (Members.Reads.of_some hv).1 h
    rw [Option.bind_some]
    cases o with
    | none =>
      rw [Decoder.optional_eq_none.1 hread]
      rcases hname with rfl | rfl <;> rfl
    | some a =>
      obtain ⟨hnull, ha⟩ := Decoder.optional_eq_some.1 hread
      rw [Option.map_some, hwrite v a ha, part, if_neg]
      rcases hname with rfl | rfl <;> simp [hnull]

/-- What is stored of the members that all credentials share. Extensions that are empty are not
written, as if they had not been given. -/
theorem get?_encoded_common (hms : ms.IsNormal) (h : decode ms = .ok c)
    (hk : k ∈ ["type", "auth-id", "enabled", "comment", "ext"]) :
    c.encoded.get? k = (ms.get? k).bind (part k) := by
  obtain ⟨htype, -, hsome, -, hinfo, -, -⟩ := (decode_eq_ok_iff hms.sorted.nodup_names).1 h
  obtain ⟨hstorable, hlawful⟩ := isLawful_of_decode hms h
  obtain ⟨gtype, gauthId, genabled, gcomment, gext, -⟩ := get?_encoded_parts hstorable hlawful.apart
  simp only [List.mem_cons, List.not_mem_nil, or_false] at hk
  -- The five shared members, each kept or rewritten in its own way.
  rcases hk with rfl | rfl | rfl | rfl | rfl
  · rw [gtype, htype]
    rfl
  · obtain ⟨v, hv⟩ := Option.isSome_iff_exists.1 hsome
    have hread := Decoder.string_eq_ok.1 ((Members.Reads.of_some hv).1 hinfo.authId)
    rw [gauthId, hv, hread]
    rfl
  · rw [genabled]
    exact map_eq_part hinfo.enabled (fun v b hb => (Decoder.boolean_eq_ok.1 hb).symm) (.inl rfl)
  · rw [gcomment]
    exact map_eq_part hinfo.comment (fun v s hs => (Decoder.string_eq_ok.1 hs).symm) (.inr rfl)
  · rw [gext]
    cases hv : ms.get? "ext" with
    | none =>
      rw [if_pos ((Members.Reads.of_none hv).1 hinfo.ext)]
      rfl
    | some v =>
      rw [Decoder.members_eq_ok.1 ((Members.Reads.of_some hv).1 hinfo.ext), Option.bind_some]
      by_cases hempty : c.info.ext = []
      · rw [if_pos hempty, hempty]
        rfl
      · rw [if_neg hempty, part, if_neg (by simpa using hempty)]

/-- The names that secrets know, for the types that the registry knows. -/
def secretNames? : Secrets → Option (List String)
  | .password _ => some PasswordSecret.names
  | .psk _ => some PskSecret.names
  | .certificate _ => some SecretInfo.names
  | .generic _ _ _ => none

/-- Of a known type only what its record knows is kept, and of any other type everything. It leads
from the name of a type to the kind of its secrets, on which the lemmas below split. -/
theorem partOf_typeName {s : Secrets} (h : s.DescribedBy ms) :
    partOf s.typeName = match secretNames? s with
      | some known => typedPart known
      | none => part := by
  cases s with
  | password l => rfl
  | psk l => rfl
  | certificate l => rfl
  | generic name l extra =>
    obtain ⟨hname, -⟩ := h
    simp only [List.mem_cons, List.not_mem_nil, or_false, not_or] at hname
    obtain ⟨hpassword, hpsk, hcertificate⟩ := hname
    show partOf name = part
    unfold partOf
    rw [if_neg (show name ≠ Secrets.passwordType from hpassword),
      if_neg (show name ≠ Secrets.pskType from hpsk),
      if_neg (show name ≠ Secrets.certificateType from hcertificate)]

/-- What is stored of the secrets of a known type: of each of them what its kind knows. One lemma
for each of the three kinds stands behind it. -/
theorem normalize_secrets {s : Secrets} {known : List String} (hms : ms.IsNormal)
    (h : s.DescribedBy ms) (hlawful : s.AllLawful) (hknown : secretNames? s = some known) :
    (Value.array s.documents).normalize =
      ((ms.get? "secrets").map (keepSecrets known)).getD (.array []) := by
  cases s with
  | password l =>
    cases hknown
    exact normalize_documents hms PasswordSecret.describes h fun _ _ hms' _ =>
      PasswordSecret.normalize_document hms'
  | psk l =>
    cases hknown
    exact normalize_documents hms PskSecret.describes h fun _ s hms' hs hdescribe =>
      PskSecret.normalize_document hms' hdescribe (hlawful s hs).present
  | certificate l =>
    cases hknown
    exact normalize_documents hms CertificateSecret.describes h fun _ _ hms' _ =>
      CertificateSecret.normalize_document hms'
  | generic name l extra => cases hknown

/-- The secrets of an unknown type are stored as they are, since they are in normal form already. -/
theorem normalize_generic {typeName : String} {l : List Members} {extra : Members}
    (hms : ms.IsNormal) (h : (Secrets.generic typeName l extra).DescribedBy ms) :
    (Value.array (Secrets.generic typeName l extra).documents).normalize =
      (ms.get? "secrets").getD (.array []) := by
  obtain ⟨-, hsecrets, -⟩ := h
  cases hv : ms.get? "secrets" with
  | none =>
    rw [(Members.Reads.of_none hv).1 hsecrets]
    rfl
  | some v =>
    have hread := (Members.Reads.of_some hv).1 hsecrets
    rw [Decoder.list_eq_ok_iff fun v a => Decoder.members_eq_ok] at hread
    rw [Option.getD_some, Secrets.documents, ← hread,
      Value.normalize_of_isNormal v (hms.value hv)]

/-- What is stored of the secrets, whether their type is known or not. An object without secrets is
stored with an empty array, which is where the second part comes from. -/
theorem get?_encoded_secrets (hms : ms.IsNormal) (h : decode ms = .ok c) :
    c.encoded.get? "secrets" = ((ms.get? "secrets").bind (partOf c.typeName "secrets")).or
      (some (.array [])) := by
  obtain ⟨-, -, -, -, -, hdescribed, hlaws⟩ := (decode_eq_ok_iff hms.sorted.nodup_names).1 h
  obtain ⟨hstorable, hlawful⟩ := isLawful_of_decode hms h
  obtain ⟨-, -, -, -, -, hget⟩ := get?_encoded_parts hstorable hlawful.apart
  rw [hget, typeName, partOf_typeName hdescribed]
  -- The secrets of a known type have members of their own; those of any other type are kept as they
  -- are.
  cases hknown : secretNames? c.secrets with
  | some known =>
    rw [normalize_secrets hms hdescribed hlaws hknown]
    cases ms.get? "secrets" <;> rfl
  | none =>
    cases hs : c.secrets with
    | generic name l extra =>
      rw [normalize_generic hms (hs ▸ hdescribed)]
      cases ms.get? "secrets" <;> rfl
    | _ =>
      rw [hs] at hknown
      cases hknown

/-- What is stored of the members that have no meaning of their own: of an unknown type everything,
and of a known one nothing. -/
theorem get?_encoded_unreserved (hms : ms.IsNormal) (h : decode ms = .ok c)
    (hk : k ∉ Secrets.reservedNames) :
    c.encoded.get? k = (ms.get? k).bind (partOf c.typeName k) := by
  obtain ⟨-, -, -, -, -, hdescribed, -⟩ := (decode_eq_ok_iff hms.sorted.nodup_names).1 h
  obtain ⟨hstorable, -⟩ := isLawful_of_decode hms h
  have hsecrets : k ≠ "secrets" := by
    rintro rfl
    exact hk (by decide)
  rw [get?_encoded_other hstorable hk, typeName, partOf_typeName hdescribed]
  -- A credential of a known type keeps nothing else, and one of another type keeps everything.
  have htyped (known : List String) : typedPart known k = fun _ => none := by
    funext v
    rw [typedPart, if_neg hsecrets, if_neg hk]
  cases hs : c.secrets with
  | generic name l extra =>
    rw [hs] at hdescribed
    obtain ⟨-, -, rfl⟩ := hdescribed
    have hpart : part k = some := by
      funext v
      refine if_neg fun hmem => hk ?_
      simp only [List.mem_cons, List.not_mem_nil, or_false, Prod.mk.injEq] at hmem
      rcases hmem with ⟨rfl, -⟩ | ⟨rfl, -⟩ | ⟨rfl, -⟩ <;> decide
    show Members.get? k (ms.filter fun m => m.1 ∉ Secrets.reservedNames) = (ms.get? k).bind (part k)
    rw [Members.get?_filter fun n => decide (n ∉ Secrets.reservedNames), if_pos (by simpa using hk),
      hpart, Option.bind_fun_some]
  | password l | psk l | certificate l =>
    show none = (ms.get? k).bind (typedPart _ k)
    rw [htyped, Option.bind_fun_none]

/-- What is stored of an object is what is kept of it. Both are in order, so they are compared name
by name: secrets, other names with a meaning, and the rest. -/
theorem encoded_eq_kept (hms : ms.IsNormal) (h : decode ms = .ok c) : c.encoded = kept ms := by
  obtain ⟨htype, -⟩ := (decode_eq_ok_iff hms.sorted.nodup_names).1 h
  refine Members.Sorted.ext (isNormal_encoded c).sorted (sorted_kept hms) fun k => ?_
  rw [get?_kept hms htype]
  by_cases hsecrets : k = "secrets"
  · rw [hsecrets, if_pos rfl, get?_encoded_secrets hms h]
  · rw [if_neg hsecrets, Option.or_none]
    by_cases hk : k ∈ ["type", "auth-id", "enabled", "comment", "ext"]
    · rw [get?_encoded_common hms h hk, partOf_common hk]
    · refine get?_encoded_unreserved hms h ?_
      simpa [Secrets.reservedNames, hsecrets] using hk

/-- What is stored of an object that is decoded is what is kept of it. An instant in it is written
anew, as short as it can be. -/
theorem encode_of_decode :
    (∀ ms c, Members.IsNormal ms → decode ms = .ok c → c.encode = .object (kept ms)) ∧
    ∀ text t, Instant.parse text = .ok t →
      utcText (.string text) = .string t.render ∧ t.IsShortest t.render := by
  constructor
  · intro ms c hms h
    rw [encode_eq_object, encoded_eq_kept hms h]
  · intro text t h
    refine ⟨?_, Instant.isShortest_render (Instant.exists_parse_iff.1 ⟨text, h⟩)⟩
    rw [utcText, h]

/-- A password with an instant of another zone, an unknown member and a function in the form of an
object. -/
def raggedPassword : Members :=
  [("auth-id", .string "sensor-1"), ("comment", .null), ("ext", .object []),
    ("secrets", .array [.object
      [("hash-function", .object [("bcrypt", .null)]),
        ("not-after", .string "2024-01-01T01:00:00.500000+01:00"), ("note", .bool true),
        ("pwd-hash", .string "$2a$"), ("salt", .null)]]),
    ("type", .string "hashed-password"), ("vendor", .string "x")]

/-- A credential of a vendor with a member of an inner name, and without secrets. -/
def vendorCredential : Members :=
  [("auth-id", .string "sensor-1"), ("enabled", .bool false),
    ("ext", .object [("a", .null)]), ("type", .string "vendor"), ("type_name", .null)]

/-- What is stored of either: of the password what its kind knows, with its instant in the shortest
form, and of the other credential all but empty extensions. -/
theorem encode_of_decode_raggedPassword :
    (∃ c, decode raggedPassword = .ok c ∧ c.encode = .object
      [("auth-id", .string "sensor-1"),
        ("secrets", .array [.object
          [("hash-function", .string "bcrypt"), ("not-after", .string "2024-01-01T00:00:00.500Z"),
            ("pwd-hash", .string "$2a$")]]),
        ("type", .string "hashed-password")]) ∧
    (∃ c, decode vendorCredential = .ok c ∧ c.encode = .object
      [("auth-id", .string "sensor-1"), ("enabled", .bool false), ("ext", .object [("a", .null)]),
        ("secrets", .array []), ("type", .string "vendor"), ("type_name", .null)]) ∧
    Instant.IsShortest ⟨1704067200, 500000000⟩ "2024-01-01T00:00:00.500Z" := by
  have hnormal {ms : Members} (h : (Value.object ms).normalize = .object ms) : ms.IsNormal := by
    have hms := Value.isNormal_normalize (.object ms)
    rw [h] at hms
    exact hms
  obtain ⟨hencode, hinstant⟩ := encode_of_decode
  have hragged : decode raggedPassword = .ok ⟨{ authId := "sensor-1" }, .password
      [{ info := { notAfter := some ⟨1704067200, 500000000⟩ }, hashFunction := some .bcrypt,
         hash := some "$2a$" }]⟩ := except_eq_ok_of_toOption (by decide +kernel)
  have hvendor : decode vendorCredential = .ok
      ⟨{ authId := "sensor-1", enabled := some false, ext := [("a", .null)] },
        .generic "vendor" [] [("type_name", .null)]⟩ := except_eq_ok_of_toOption (by decide +kernel)
  -- What is kept is computed. That it is what is encoded is left to the theorem.
  have hraggedKept : Value.object (kept raggedPassword) = .object
      [("auth-id", .string "sensor-1"),
        ("secrets", .array [.object
          [("hash-function", .string "bcrypt"), ("not-after", .string "2024-01-01T00:00:00.500Z"),
            ("pwd-hash", .string "$2a$")]]),
        ("type", .string "hashed-password")] := by
    decide +kernel
  have hvendorKept : Value.object (kept vendorCredential) = .object
      [("auth-id", .string "sensor-1"), ("enabled", .bool false), ("ext", .object [("a", .null)]),
        ("secrets", .array []), ("type", .string "vendor"), ("type_name", .null)] := by
    decide +kernel
  refine ⟨⟨_, hragged, ?_⟩, ⟨_, hvendor, ?_⟩, ?_⟩
  · exact (hencode _ _ (hnormal (by decide +kernel)) hragged).trans hraggedKept
  · exact (hencode _ _ (hnormal (by decide +kernel)) hvendor).trans hvendorKept
  · have hparse : Instant.parse "2024-01-01T01:00:00.500000+01:00" =
        .ok ⟨1704067200, 500000000⟩ := except_eq_ok_of_toOption (by decide +kernel)
    exact (hinstant _ _ hparse).2

end Credential

end DeviceRegistry
