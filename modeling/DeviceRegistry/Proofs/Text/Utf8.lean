import DeviceRegistry.Text.Utf8

/-!
# `DeviceRegistry.Proofs.Text.Utf8`: texts are read back from their bytes

The bytes of a text are those of its characters, and each character is read back from its own. Main
statements:

* `Symbol.first_utf8EncodeChar`: the bytes of a character start with that character.
* `Symbol.decode_bytes`, `lossy_bytes`: the bytes of a text are read as its characters.
-/

set_option autoImplicit false

namespace DeviceRegistry.Text

/-- The bytes of a text are the bytes of its characters, one character after the other. -/
theorem bytes_ofList (cs : List Char) :
    bytes (String.ofList cs) = cs.flatMap String.utf8EncodeChar := by
  unfold bytes String.toUTF8
  rw [String.toByteArray_ofList, List.utf8Encode, List.data_toByteArray]

namespace Symbol

variable {v bits more seen : Nat} {a b : UInt8} {l : Lead}

/-! ### Bytes of a character -/

/-- A number below 256 is kept by its byte. So what is shown of numbers can be used for bytes. -/
theorem toNat_ofNat {n : Nat} (h : n < 256) : (UInt8.ofNat n).toNat = n := by
  rw [UInt8.toNat_ofNat']
  omega

/-- Six bits are put behind those that were read. It is a step of reading a character, from its
second byte on. -/
theorem shiftIn_eq (hbits : bits = v / 64) (hb : b.toNat = v % 64 + 128) : shiftIn bits b = v := by
  unfold shiftIn
  omega

/-- The first byte of a character of several bytes, with a second one that it allows: the others are
read behind these two. -/
theorem first_of_lead (r : List UInt8) (ha : 0x80 ≤ a.toNat) (hl : Lead.of? a = some l)
    (hb : l.low ≤ b.toNat ∧ b.toNat ≤ l.high) :
    first a (b :: r) = tails l.more (shiftIn l.bits b) 2 r := by
  unfold first
  rw [if_neg (Nat.not_lt.2 ha)]
  simp only [hl]
  simp [hb]

/-- A byte that holds six more bits is read, and the others behind it. -/
theorem tails_cons (r : List UInt8) (hb : b.toNat = v % 64 + 128) (hbits : bits = v / 64) :
    tails (more + 1) bits seen (b :: r) = tails more v (seen + 1) r := by
  have hlow : 0x80 ≤ b.toNat := by omega
  have hhigh : b.toNat ≤ 0xBF := by omega
  rw [tails, shiftIn_eq hbits hb]
  simp [isTail, hlow, hhigh]

/-- The first byte says how many bytes follow, and which second ones it allows. -/
def Lead.Allows (l : Lead) (more bits : Nat) (b : UInt8) : Prop :=
  l.more = more ∧ l.bits = bits ∧ l.low ≤ b.toNat ∧ b.toNat ≤ l.high

/-- The first byte of a character of two bytes says so, and holds its upper bits. -/
theorem lead_two (hlow : 0x80 ≤ v) (hhigh : v ≤ 0x7FF) (ha : a.toNat = v / 64 + 192)
    (hb : b.toNat = v % 64 + 128) : ∃ l, Lead.of? a = some l ∧ l.Allows 0 (v / 64) b := by
  have hsmall : ¬ a.toNat < 0xC2 := by omega
  have htwo : a.toNat ≤ 0xDF := by omega
  unfold Lead.of?
  dsimp only
  rw [if_neg hsmall, if_pos htwo]
  refine ⟨_, rfl, rfl, ?_, ?_, ?_⟩ <;> dsimp only <;> omega

/-- The first byte of a character of three bytes says so. After two of these bytes the second one is
narrowed: the number must neither be small nor a surrogate. -/
theorem lead_three (hlow : 0x800 ≤ v) (hhigh : v ≤ 0xFFFF) (hvalid : v < 0xD800 ∨ 0xDFFF < v)
    (ha : a.toNat = v / 4096 + 224) (hb : b.toNat = v / 64 % 64 + 128) :
    ∃ l, Lead.of? a = some l ∧ l.Allows 1 (v / 4096) b := by
  have hsmall : ¬ a.toNat < 0xC2 := by omega
  have htwo : ¬ a.toNat ≤ 0xDF := by omega
  unfold Lead.of?
  dsimp only
  rw [if_neg hsmall, if_neg htwo]
  -- The second byte is narrowed after `E0` and `ED`: the number is not small, and no surrogate.
  by_cases hE0 : a.toNat = 0xE0
  · rw [if_pos hE0]
    refine ⟨_, rfl, rfl, ?_, ?_, ?_⟩ <;> dsimp only <;> omega
  · rw [if_neg hE0]
    by_cases hED : a.toNat = 0xED
    · rw [if_pos hED]
      refine ⟨_, rfl, rfl, ?_, ?_, ?_⟩ <;> dsimp only <;> omega
    · have hthree : a.toNat ≤ 0xEF := by omega
      rw [if_neg hED, if_pos hthree]
      refine ⟨_, rfl, rfl, ?_, ?_, ?_⟩ <;> dsimp only <;> omega

/-- The first byte of a character of four bytes says so. After the least and the greatest of them
the second one is narrowed. -/
theorem lead_four (hlow : 0x10000 ≤ v) (hhigh : v < 0x110000) (ha : a.toNat = v / 262144 + 240)
    (hb : b.toNat = v / 4096 % 64 + 128) :
    ∃ l, Lead.of? a = some l ∧ l.Allows 2 (v / 262144) b := by
  have hsmall : ¬ a.toNat < 0xC2 := by omega
  have htwo : ¬ a.toNat ≤ 0xDF := by omega
  have hE0 : a.toNat ≠ 0xE0 := by omega
  have hED : a.toNat ≠ 0xED := by omega
  have hthree : ¬ a.toNat ≤ 0xEF := by omega
  unfold Lead.of?
  dsimp only
  rw [if_neg hsmall, if_neg htwo, if_neg hE0, if_neg hED, if_neg hthree]
  -- The second byte is narrowed after `F0` and `F4`: the number is neither too small nor too large.
  by_cases hF0 : a.toNat = 0xF0
  · rw [if_pos hF0]
    refine ⟨_, rfl, rfl, ?_, ?_, ?_⟩ <;> dsimp only <;> omega
  · rw [if_neg hF0]
    by_cases hF3 : a.toNat ≤ 0xF3
    · rw [if_pos hF3]
      refine ⟨_, rfl, rfl, ?_, ?_, ?_⟩ <;> dsimp only <;> omega
    · have hF4 : a.toNat = 0xF4 := by omega
      rw [if_neg hF3, if_pos hF4]
      refine ⟨_, rfl, rfl, ?_, ?_, ?_⟩ <;> dsimp only <;> omega

/-! ### Characters -/

/-- A character has one to four bytes, told by the bounds of its number. The order of texts and of
their bytes is compared in these four cases. -/
theorem utf8EncodeChar_eq (c : Char) : String.utf8EncodeChar c =
    if c.toNat ≤ 127 then [UInt8.ofNat c.toNat]
    else if c.toNat ≤ 2047 then
      [UInt8.ofNat (c.toNat / 64 % 32 + 192), UInt8.ofNat (c.toNat % 64 + 128)]
    else if c.toNat ≤ 65535 then
      [UInt8.ofNat (c.toNat / 4096 % 16 + 224), UInt8.ofNat (c.toNat / 64 % 64 + 128),
        UInt8.ofNat (c.toNat % 64 + 128)]
    else
      [UInt8.ofNat (c.toNat / 262144 % 8 + 240), UInt8.ofNat (c.toNat / 4096 % 64 + 128),
        UInt8.ofNat (c.toNat / 64 % 64 + 128), UInt8.ofNat (c.toNat % 64 + 128)] := rfl

/-- The bytes of a character start with that character, whatever follows them. Each of the four
lengths is read byte by byte, with the bits of the number so far. -/
theorem first_utf8EncodeChar (c : Char) (r : List UInt8) :
    ∃ a tail, String.utf8EncodeChar c = a :: tail ∧ first a (tail ++ r) = char c := by
  have hvalid : c.toNat < 0xD800 ∨ 0xDFFF < c.toNat ∧ c.toNat < 0x110000 := c.valid
  have hc : Char.ofNat c.toNat = c := Char.ofNat_toNat c
  rw [utf8EncodeChar_eq]
  generalize hv : c.toNat = v at hvalid hc
  have htail : ∀ n, (UInt8.ofNat (n % 64 + 128)).toNat = n % 64 + 128 := fun n =>
    toNat_ofNat (by omega)
  -- The four lengths, told by the bounds of the number. Each byte but the first holds six bits.
  by_cases hone : v ≤ 127
  · rw [if_pos hone]
    have ha : (UInt8.ofNat v).toNat = v := toNat_ofNat (by omega)
    have hascii : v < 0x80 := by omega
    refine ⟨_, _, rfl, ?_⟩
    unfold first
    rw [ha, if_pos hascii, hc]
  · rw [if_neg hone]
    by_cases htwo : v ≤ 2047
    · rw [if_pos htwo]
      have ha : (UInt8.ofNat (v / 64 % 32 + 192)).toNat = v / 64 + 192 := by
        rw [toNat_ofNat (by omega)]
        omega
      obtain ⟨l, hl, hmore, hbits, hb⟩ := lead_two (by omega) htwo ha (htail v)
      refine ⟨_, _, rfl, ?_⟩
      rw [List.cons_append, first_of_lead _ (by omega) hl hb, hmore, hbits,
        shiftIn_eq rfl (htail v), tails, hc]
    · rw [if_neg htwo]
      by_cases hthree : v ≤ 65535
      · rw [if_pos hthree]
        have ha : (UInt8.ofNat (v / 4096 % 16 + 224)).toNat = v / 4096 + 224 := by
          rw [toNat_ofNat (by omega)]
          omega
        obtain ⟨l, hl, hmore, hbits, hb⟩ :=
          lead_three (by omega) hthree (by omega) ha (htail (v / 64))
        have hshift : shiftIn (v / 4096) (UInt8.ofNat (v / 64 % 64 + 128)) = v / 64 :=
          shiftIn_eq (by omega) (htail _)
        refine ⟨_, _, rfl, ?_⟩
        rw [List.cons_append, first_of_lead _ (by omega) hl hb, hmore, hbits, hshift,
          List.cons_append, tails_cons _ (htail v) rfl, tails, hc]
      · rw [if_neg hthree]
        have ha : (UInt8.ofNat (v / 262144 % 8 + 240)).toNat = v / 262144 + 240 := by
          rw [toNat_ofNat (by omega)]
          omega
        obtain ⟨l, hl, hmore, hbits, hb⟩ :=
          lead_four (by omega) (by omega) ha (htail (v / 4096))
        have hshift : shiftIn (v / 262144) (UInt8.ofNat (v / 4096 % 64 + 128)) = v / 4096 :=
          shiftIn_eq (by omega) (htail _)
        refine ⟨_, _, rfl, ?_⟩
        rw [List.cons_append, first_of_lead _ (by omega) hl hb, hmore, hbits, hshift,
          List.cons_append, tails_cons _ (htail (v / 64)) (by omega), List.cons_append,
          tails_cons _ (htail v) rfl, tails, hc]

/-! ### Texts -/

/-- Bytes that belong to the symbol before are passed over. The induction is on these bytes, of
which there are three at most. -/
theorem decodeFrom_append (l r : List UInt8) : decodeFrom l.length (l ++ r) = decodeFrom 0 r := by
  induction l with
  | nil => rfl
  | cons a l ih => exact ih

/-- The bytes of characters are read as those characters, with none left over between them. -/
theorem decode_flatMap (cs : List Char) :
    decode (cs.flatMap String.utf8EncodeChar) = cs.map char := by
  unfold decode
  induction cs with
  | nil => rfl
  | cons c cs ih =>
    rw [List.flatMap_cons, List.map_cons]
    obtain ⟨a, tail, hencode, hfirst⟩ :=
      first_utf8EncodeChar c (cs.flatMap String.utf8EncodeChar)
    -- As many bytes are passed over as the character has behind its first.
    have hwidth : c.utf8Size - 1 = tail.length := by
      rw [← String.length_utf8EncodeChar, hencode]
      rfl
    rw [hencode, List.cons_append, decodeFrom, hfirst, width, hwidth, decodeFrom_append, ih]

/-- The bytes of a text are read as its characters, so a reader of bytes can be shown to be right on
the characters. -/
theorem decode_bytes (s : String) : decode (bytes s) = ofString s := by
  rw [ofString, ← decode_flatMap, ← bytes_ofList, String.ofList_toList]

end Symbol

/-- A text is read back from its bytes, where no byte has to be replaced. -/
theorem lossy_bytes (s : String) : lossy (bytes s) = s := by
  rw [lossy, Symbol.decode_bytes, Symbol.ofString, List.map_map]
  exact (congrArg String.ofList (List.map_id s.toList)).trans String.ofList_toList

end DeviceRegistry.Text
