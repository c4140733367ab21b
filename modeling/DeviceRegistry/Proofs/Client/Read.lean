import DeviceRegistry.Client.Basic
import DeviceRegistry.Proofs.Json.Streaming
import DeviceRegistry.Proofs.Management.Body
import DeviceRegistry.Proofs.Text.Utf8

/-!
# `DeviceRegistry.Proofs.Client.Read`: what a client makes of a response

A client decodes the credentials of a response one by one while it reads the text; a payload is read
as a whole first, and what is no object in it is passed over. Main statements:

* `list_decoder_eq_ok_iff`: a client reads the arrays of objects that a payload can be decoded from.
* `client_reads_payloads`: the two ways agree on all texts but for arrays with an item that is no
  object, which a client refuses.
-/

set_option autoImplicit false

namespace DeviceRegistry

open DeviceRegistry.Json (Value Members Decoder)
open DeviceRegistry.Management (Outcome)

namespace Credential

variable {v : Value} {vs : List Value} {c : Credential} {cs : List Credential}

/-! ### One way of decoding -/

/-- A credential is read as part of a text as it is from a document, so what is proved about
decoding documents holds of the texts that a client receives. -/
theorem streams_decoder : decoder.Streams := Decoder.streams_members.convert _

/-- A credential is decoded from an object only, and then by its members; no other value can stand
for one. -/
theorem decoder_eq_ok_iff :
    decoder.ofValue v = .ok c ↔ ∃ ms, v = .object ms ∧ decode ms = .ok c := by
  unfold decoder Decoder.convert
  constructor
  · intro h
    obtain ⟨ms, hms, h⟩ := except_bind_eq_ok.1 h
    exact ⟨ms, Decoder.members_eq_ok.1 hms, except_mapError_eq_ok.1 h⟩
  · rintro ⟨ms, rfl, h⟩
    exact except_bind_eq_ok.2 ⟨ms, rfl, except_mapError_eq_ok.2 h⟩

/-- When all items are objects, none is passed over, so decoding item by item comes to the same as
decoding the objects of the array. The induction is on the array. -/
theorem itemsOf_decoder_eq_ok_iff :
    Decoder.itemsOf decoder vs = .ok cs ↔
      (∀ v ∈ vs, ∃ ms, v = .object ms) ∧ decodeAll vs = .ok cs := by
  induction vs generalizing cs with
  | nil => simp [Decoder.itemsOf, decodeAll, objectsOf]
  | cons v vs ih =>
    rw [Decoder.itemsOf, except_bind_eq_ok, List.forall_mem_cons]
    -- The reader of the client decodes item by item, the other one filters the objects first. On
    -- objects alone both do the same.
    constructor
    · rintro ⟨c, hc, h⟩
      obtain ⟨ms, rfl, hdecode⟩ := decoder_eq_ok_iff.1 hc
      obtain ⟨rest, hrest, he⟩ := except_bind_eq_ok.1 h
      cases he
      obtain ⟨hobjects, hall⟩ := ih.1 hrest
      refine ⟨⟨⟨ms, rfl⟩, hobjects⟩, ?_⟩
      show (ms :: objectsOf vs).mapM decode = _
      rw [List.mapM_cons, hdecode, except_bind_ok, show (objectsOf vs).mapM decode = _ from hall]
      rfl
    · rintro ⟨⟨⟨ms, rfl⟩, hobjects⟩, hall⟩
      have hcons : (ms :: objectsOf vs).mapM decode = .ok cs := hall
      rw [List.mapM_cons, except_bind_eq_ok] at hcons
      obtain ⟨c, hdecode, h⟩ := hcons
      obtain ⟨rest, hrest, he⟩ := except_bind_eq_ok.1 h
      refine ⟨c, decoder_eq_ok_iff.2 ⟨ms, rfl, hdecode⟩, ?_⟩
      rw [ih.2 ⟨hobjects, hrest⟩]
      cases he
      rfl

/-- What is no object is passed over, so taking it out beforehand changes nothing. It is why a
payload with a `null` in it still has credentials. -/
theorem objectsOf_filter (vs : List Value) :
    objectsOf (vs.filter fun v => v.kind = "object") = objectsOf vs := by
  induction vs with
  | nil => rfl
  | cons v vs ih =>
    rw [List.filter_cons]
    cases v with
    | object ms => exact congrArg (ms :: ·) ih
    | null | bool _ | number _ | string _ | array _ => exact ih

/-! ### Texts -/

variable {bytes : List UInt8}

/-- An array of credentials is read from the text of an array of objects that can be decoded, and
from no other text: a client has no item to pass over. -/
theorem list_decoder_eq_ok_iff :
    (Decoder.list decoder).ofBytes bytes = .ok cs ↔
      ∃ vs, Value.ofBytes bytes = .ok (.array vs) ∧ (∀ v ∈ vs, ∃ ms, v = .object ms) ∧
        decodeAll vs = .ok cs := by
  rw [streams_decoder.list.ofBytes_eq_ok_iff]
  constructor
  · rintro ⟨v, hv, hcs⟩
    obtain ⟨vs, rfl, hitems⟩ := Decoder.list_eq_ok hcs
    exact ⟨vs, hv, itemsOf_decoder_eq_ok_iff.1 hitems⟩
  · rintro ⟨vs, hv, hall⟩
    exact ⟨.array vs, hv, itemsOf_decoder_eq_ok_iff.2 hall⟩

/-- A payload that is an array has the credentials of its objects. An array is never written as an
empty body, so the check for one does not get in the way. -/
theorem decodeBody_of_array (h : Value.ofBytes bytes = .ok (.array vs)) :
    decodeBody bytes = decodeAll vs := by
  have hempty : bytes ≠ [] := by
    rintro rfl
    cases h
  unfold decodeBody
  rw [if_neg (by simpa using hempty), h]
  rfl

end Credential

namespace Client

/-- What a client makes of a text that a registry answers with is what the text is decoded to as a
payload, unless it is an array with an item that is no object: a payload does without the item, and
the client refuses the text and keeps it. -/
theorem client_reads_payloads (s : String) :
    let read := (Decoder.list Credential.decoder).ofBytes (Text.bytes s)
    let payload := Credential.decodeBody (Text.bytes s)
    (∀ cs, read = .ok cs → payload = .ok cs) ∧
    (∀ vs, Value.ofBytes (Text.bytes s) = .ok (.array vs) → (∀ v ∈ vs, ∃ ms, v = .object ms) →
      ∀ cs, payload = .ok cs → read = .ok cs) ∧
    (∀ vs, Value.ofBytes (Text.bytes s) = .ok (.array vs) → (∃ v ∈ vs, ∀ ms, v ≠ .object ms) →
      payload = Credential.decodeAll (vs.filter fun v => v.kind = "object") ∧
        ∃ e, read = .error e) ∧
    (∀ (c : Client) t d url wire headers body, c.credentialsUrl t d = .ok url →
      (c.send "GET" url [] "" wire).1 = .ok ⟨200, headers, .ok body⟩ → Text.lossy body = s →
      (c.read t d wire).1 = match read with
        | .ok cs => .ok ⟨200, some cs, versionOf headers⟩
        | .error e => .error (.deserialization e.message s)) := by
  intro read payload
  refine ⟨fun cs hread => ?_, fun vs hvs hobjects cs hpayload => ?_,
    fun vs hvs ⟨v, hv, hno⟩ => ⟨?_, ?_⟩, ?_⟩
  · obtain ⟨vs, hvs, -, hall⟩ := Credential.list_decoder_eq_ok_iff.1 hread
    exact (Credential.decodeBody_of_array hvs).trans hall
  · have hall : Credential.decodeAll vs = .ok cs :=
      (Credential.decodeBody_of_array hvs).symm.trans hpayload
    exact Credential.list_decoder_eq_ok_iff.2 ⟨vs, hvs, hobjects, hall⟩
  · show Credential.decodeBody (Text.bytes s) = _
    rw [Credential.decodeBody_of_array hvs, Credential.decodeAll, Credential.decodeAll,
      Credential.objectsOf_filter]
  · cases hread : read with
    | error e => exact ⟨e, rfl⟩
    | ok cs =>
      -- The client would have found an object in every item.
      obtain ⟨vs', hvs', hobjects, -⟩ := Credential.list_decoder_eq_ok_iff.1 hread
      rw [hvs] at hvs'
      cases hvs'
      obtain ⟨ms, he⟩ := hobjects v hv
      exact absurd he (hno ms)
  · intro c t d url wire headers body hurl hsend hbody
    have hrun : (c.read t d wire).1 = (c.send "GET" url [] "" wire).1.bind outcomeOfRead := by
      unfold Client.read
      rw [hurl]
      rfl
    rw [hrun, hsend]
    show outcomeOfRead ⟨200, headers, .ok body⟩ = _
    unfold outcomeOfRead
    subst hbody
    exact if_neg fun h => h rfl

/-- A client of a registry that is near. -/
def nearby : Client :=
  { baseUrl := { scheme := "http", host := some (.domain "h"), path := .segments [""] } }

/-- A text with one key is read as the credential that it is as a payload. With `null` in front, the
payload is the same, and the client refuses the text. -/
theorem client_reads_payloads_keyed :
    let text := Credential.keyedText
    let spoiled := "[null," ++ (text.drop 1).toString
    (Decoder.list Credential.decoder).ofBytes (Text.bytes text) = .ok [Credential.keyed] ∧
    (nearby.read "T" "4711" ⟨[.response 200 [("etag", "1")] (Text.bytes text)], []⟩).1 =
      .ok ⟨200, some [Credential.keyed], some "1"⟩ ∧
    Credential.decodeBody (Text.bytes spoiled) = .ok [Credential.keyed] ∧
    ∃ message, (nearby.read "T" "4711"
      ⟨[.response 200 [("etag", "1")] (Text.bytes spoiled)], []⟩).1 =
        .error (.deserialization message spoiled) := by
  intro text spoiled
  let item : Value := .object [("auth-id", .string "sensor-1"),
    ("secrets", .array [.object [("key", .string "c2VjcmV0")]]), ("type", .string "psk")]
  have htext : Value.ofBytes (Text.bytes text) = .ok (.array [item]) :=
    except_eq_ok_of_toOption (by decide +kernel)
  have hspoiled : Value.ofBytes (Text.bytes spoiled) = .ok (.array [.null, item]) :=
    except_eq_ok_of_toOption (by decide +kernel)
  -- The text holds objects only, so both readers take it. With `null` in front only one of them
  -- does.
  obtain ⟨-, hobjects, -, hreads⟩ := client_reads_payloads text
  obtain ⟨-, -, hno, hrefuses⟩ := client_reads_payloads spoiled
  have hread : (Decoder.list Credential.decoder).ofBytes (Text.bytes text) =
      .ok [Credential.keyed] :=
    hobjects _ htext (fun v hv => ⟨_, List.mem_singleton.1 hv⟩) _ Credential.decodeBody_keyedText
  obtain ⟨hpayload, e, he⟩ := hno _ hspoiled ⟨.null, List.mem_cons_self, fun ms => by simp⟩
  refine ⟨hread, ?_, hpayload.trans ?_, e.message, ?_⟩
  · have hversion : versionOf [("etag", "1")] = some "1" := by decide +kernel
    rw [hreads nearby "T" "4711" _ _ [("etag", "1")] _ rfl rfl (Text.lossy_bytes text), hread,
      hversion]
  · exact (Credential.decodeBody_of_array htext).symm.trans Credential.decodeBody_keyedText
  · rw [hrefuses nearby "T" "4711" _ _ [("etag", "1")] _ rfl rfl (Text.lossy_bytes spoiled), he]

end Client

end DeviceRegistry
