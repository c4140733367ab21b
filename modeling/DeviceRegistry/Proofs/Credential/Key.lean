import DeviceRegistry.Proofs.Credential.Lawful
import DeviceRegistry.Proofs.Text.Base64

/-!
# `DeviceRegistry.Proofs.Credential.Key`: pre-shared keys are canonical base64

The key of a secret is a text. It is accepted exactly when it is what some bytes are written as, so
that two secrets with the same key have the same text. Main statements:

* `PskSecret.isKeyOf_iff`: the bytes of a key are those that it is written for.
* `PskSecret.fault?_of_window`: why a secret is refused when its window is in order.
* `PskSecret.accepts_canonical_keys`: which keys are accepted, and how all others are refused.
-/

set_option autoImplicit false

namespace DeviceRegistry

namespace Text

/-- Different texts have different bytes, as a text is read back from its bytes. -/
theorem bytes_injective : Function.Injective bytes := fun s s' h => by
  rw [← lossy_bytes s, h, lossy_bytes]

/-- Only the empty text has no bytes. So a key with a text has bytes that have to be decoded. -/
theorem bytes_eq_nil_iff {s : String} : bytes s = [] ↔ s = "" :=
  bytes_injective.eq_iff (b := "")

end Text

namespace PskSecret

variable {s s' : PskSecret} {b : List UInt8}

/-- A text is the key of some bytes: their standard base64 with padding, which is not empty. -/
def IsKeyOf (key : String) (b : List UInt8) : Prop :=
  b ≠ [] ∧ Text.bytes key = Base64.encode b

/-- The bytes of a key are those that it is written for. Base64 is decoded only where it is
canonical, so decoding and encoding undo each other. -/
theorem isKeyOf_iff : IsKeyOf s.key b ↔ s.key ≠ "" ∧ s.keyBytes = .ok b := by
  unfold IsKeyOf keyBytes
  rw [Base64.decode_eq_ok_iff]
  refine and_congr_left fun hkey => not_congr ?_
  rw [← Text.bytes_eq_nil_iff, hkey]
  exact (Base64.encode_injective.eq_iff (b := [])).symm

/-- A secret with its window in order has no fault exactly when it has a key. -/
theorem fault?_eq_none_iff_isKeyOf (hwindow : s.info.IsLawful) :
    s.fault? = none ↔ ∃ b, IsKeyOf s.key b := by
  simp only [isKeyOf_iff, exists_and_left]
  exact fault?_eq_none_iff.trans ⟨fun h => ⟨h.present, h.base64⟩, fun h => ⟨hwindow, h.1, h.2⟩⟩

/-- Why a secret with its window in order is refused: there is no key, or it cannot be read. The
window is looked at first, so it has to be in order. -/
theorem fault?_of_window (hwindow : s.info.IsLawful) (hfault : s.fault? ≠ none) :
    (s.key = "" ∧ s.fault? = some .noKey) ∨
      (s.key ≠ "" ∧ ∃ e, s.keyBytes = .error e ∧ s.fault? = some (.malformedKey e)) := by
  have hinfo : s.info.fault? = none := SecretInfo.fault?_eq_none_iff.2 hwindow
  unfold fault? at hfault ⊢
  rw [hinfo, Option.orElse_eq_orElse, Option.orElse_eq_or, Option.none_or] at hfault ⊢
  by_cases hkey : s.key = ""
  · exact .inl ⟨hkey, if_pos hkey⟩
  · rw [if_neg hkey] at hfault ⊢
    cases hbytes : s.keyBytes with
    | ok b =>
      rw [hbytes] at hfault
      exact absurd rfl hfault
    | error e => exact .inr ⟨hkey, e, rfl, rfl⟩

/-- Secrets without a fault that hold the same bytes have the same text, since that text is what the
bytes are written as. -/
theorem key_eq_of_keyBytes_eq (h : s.fault? = none) (hbytes : s.keyBytes = s'.keyBytes) :
    s.key = s'.key := by
  obtain ⟨b, hb⟩ := (fault?_eq_none_iff.1 h).base64
  have hs := Base64.decode_eq_ok_iff.1 hb
  have hs' := Base64.decode_eq_ok_iff.1 (hbytes ▸ hb : s'.keyBytes = .ok b)
  exact Text.bytes_injective (hs.trans hs'.symm)

/-- The keys that are accepted are the canonical ones. A secret with its window in order passes
exactly when its key is the standard base64, with padding, of some bytes, and these are then its
bytes; secrets that pass have the same bytes only with the same text. Any other secret is told that
it has no key, or why its key cannot be read. -/
theorem accepts_canonical_keys (s : PskSecret) (hwindow : s.info.IsLawful) :
    (s.fault? = none ↔ ∃ b, IsKeyOf s.key b) ∧
    (∀ b, IsKeyOf s.key b → s.keyBytes = .ok b) ∧
    (∀ s' : PskSecret, s.fault? = none → s'.fault? = none → s.keyBytes = s'.keyBytes →
      s.key = s'.key) ∧
    ((¬ ∃ b, IsKeyOf s.key b) →
      (s.key = "" ∧ s.fault?.map SecretFault.message = some "'key' field must be set") ∨
      (s.key ≠ "" ∧ ∃ e, s.keyBytes = .error e ∧
        s.fault?.map SecretFault.message =
          some ("'key' is not valid base64: " ++ e.message))) := by
  have hpasses := fault?_eq_none_iff_isKeyOf hwindow
  refine ⟨hpasses, fun b hb => (isKeyOf_iff.1 hb).2,
    fun s' h _ hbytes => key_eq_of_keyBytes_eq h hbytes, fun hnone => ?_⟩
  rcases fault?_of_window hwindow (mt hpasses.1 hnone) with ⟨hkey, hfault⟩ | ⟨hkey, e, he, hfault⟩
  · rw [hfault]
    exact .inl ⟨hkey, rfl⟩
  · rw [hfault]
    exact .inr ⟨hkey, e, he, rfl⟩

/-- A key of seven bytes ends in a group of two symbols, and is accepted with a window of a
second. -/
theorem accepts_canonical_keys_secrets :
    let s : PskSecret := ⟨{ notBefore := some ⟨0, 0⟩, notAfter := some ⟨1, 0⟩ }, "c2VjcmV0cw=="⟩
    s.info.IsLawful ∧ s.fault? = none ∧ s.keyBytes = .ok (Text.bytes "secrets") := by
  intro s
  have hwindow : s.info.IsLawful := by
    rintro _ _ ⟨⟩ ⟨⟩
    exact .inl (by decide)
  have hkey : IsKeyOf s.key (Text.bytes "secrets") := ⟨by decide, by decide⟩
  obtain ⟨hpasses, hbytes, -⟩ := accepts_canonical_keys s hwindow
  exact ⟨hwindow, hpasses.2 ⟨_, hkey⟩, hbytes _ hkey⟩

end PskSecret

end DeviceRegistry
