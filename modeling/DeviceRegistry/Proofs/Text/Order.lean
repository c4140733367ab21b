import DeviceRegistry.Proofs.Text.Utf8

/-!
# `DeviceRegistry.Proofs.Text.Order`: the order of texts is that of their bytes

Texts are ordered by their characters, and UTF-8 keeps that order: a larger character has larger
bytes. Main statement:

* `bytes_lt`: the bytes of texts are in the order of the texts.
-/

set_option autoImplicit false

namespace DeviceRegistry.Text

/-- Small numbers are in the same order as their bytes. It is for the first bytes that differ in two
texts. -/
theorem ofNat_lt_iff {m n : Nat} (hm : m < 256) (hn : n < 256) :
    UInt8.ofNat m < UInt8.ofNat n ↔ m < n := by
  rw [UInt8.lt_iff_toNat_lt, Symbol.toNat_ofNat hm, Symbol.toNat_ofNat hn]

/-- Small numbers are the same when their bytes are. It goes with the lemma above, in the comparison
of two characters. -/
theorem ofNat_inj {m n : Nat} (hm : m < 256) (hn : n < 256) :
    UInt8.ofNat m = UInt8.ofNat n ↔ m = n := by
  rw [← UInt8.toNat_inj, Symbol.toNat_ofNat hm, Symbol.toNat_ofNat hn]

/-- A larger character has larger bytes, whatever follows them: more bytes start with a larger first
one, and as many bytes are digits of the number, the highest first. -/
theorem utf8EncodeChar_append_lt {c d : Char} (h : c < d) (x y : List UInt8) :
    String.utf8EncodeChar c ++ x < String.utf8EncodeChar d ++ y := by
  have hlt : c.toNat < d.toNat := h
  have hd : d.toNat < 0x110000 := by
    have hvalid : d.toNat < 0xD800 ∨ 0xDFFF < d.toNat ∧ d.toNat < 0x110000 := d.valid
    omega
  -- Every byte but the first holds one digit to the base 64.
  have hdigits : ∀ n : Nat, n / 4096 = n / 64 / 64 ∧ n / 262144 = n / 64 / 64 / 64 := by
    intro n
    omega
  rw [Symbol.utf8EncodeChar_eq, Symbol.utf8EncodeChar_eq]
  generalize c.toNat = v at hlt ⊢
  generalize d.toNat = w at hlt hd ⊢
  simp only [hdigits]
  -- With more bytes the first byte is larger. With as many, the first digits that differ decide.
  repeat' split
  all_goals
    simp (disch := omega) only [List.cons_append, List.nil_append, List.cons_lt_cons_iff,
      ofNat_lt_iff, ofNat_inj]
  all_goals omega

/-- The bytes of texts are in the order of the texts. The induction follows the order of characters,
of which the first different one decides. -/
theorem bytes_lt {s t : String} (h : s < t) : bytes s < bytes t := by
  have hchars : ∀ {cs ds : List Char}, cs < ds →
      cs.flatMap String.utf8EncodeChar < ds.flatMap String.utf8EncodeChar := by
    intro cs ds h
    induction h with
    | @nil d ds =>
      obtain ⟨a, tail, hd, -⟩ := Symbol.first_utf8EncodeChar d []
      rw [List.flatMap_cons, hd]
      exact List.nil_lt_cons _ _
    | rel hlt => exact utf8EncodeChar_append_lt hlt _ _
    | cons _ ih => exact List.append_left_lt ih
  rw [← String.ofList_toList (s := s), ← String.ofList_toList (s := t), bytes_ofList, bytes_ofList]
  exact hchars h

end DeviceRegistry.Text
