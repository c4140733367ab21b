import DeviceRegistry.Proofs.Steps
import DeviceRegistry.Proofs.Text.Utf8
import DeviceRegistry.Text.Base64

/-!
# `DeviceRegistry.Proofs.Text.Base64`: reading accepts exactly what writing produces

Writing takes three bytes at a time; the last group holds one to three. Reading takes four symbols
at a time, and the last group may end in padding. Main statements:

* `valueOf?_eq_some_iff`: the sixty-four symbols stand for the numbers below 64, one each.
* `decode_encode`: what is written is read back.
* `eq_encode_of_decode`: a text that is read is what is written for the bytes that it is read as.
* `decode_eq_ok_iff`: the two together, so that bytes have one text and texts at most one meaning.
-/

set_option autoImplicit false

namespace DeviceRegistry.Base64

open DeviceRegistry.Text.Symbol (toNat_ofNat)

variable {n k index offset : Nat} {b : UInt8} {bs out : List UInt8} {ns : List Nat} {t t' : Tail}

/-! ### Symbols -/

/-- The symbol of a number stands for that number. There are 64 of them, and each is tried. -/
theorem valueOf?_symbolOf : ∀ n < 64, valueOf? (symbolOf n) = some n := by decide

set_option maxRecDepth 4096 in
/-- A byte that stands for a number is the symbol of that number, checked for all bytes by
evaluation. -/
theorem symbolOf_valueOf? :
    ∀ m < 256, ∀ n ∈ valueOf? (UInt8.ofNat m), n < 64 ∧ UInt8.ofNat m = symbolOf n := by
  decide

/-- A symbol stands for one number below 64, and that number is written as the symbol. From here on
symbols are spoken of by their numbers. -/
theorem valueOf?_eq_some_iff : valueOf? b = some n ↔ n < 64 ∧ b = symbolOf n := by
  constructor
  · intro h
    have htable := symbolOf_valueOf? b.toNat b.toNat_lt
    rw [UInt8.ofNat_toNat] at htable
    exact htable n h
  · rintro ⟨hn, rfl⟩
    exact valueOf?_symbolOf n hn

/-- Padding is no symbol, so a group never goes on behind it. -/
theorem symbolOf_ne_pad : ∀ n < 64, symbolOf n ≠ pad := by decide

/-- Inside a full group only symbols are read, padding being no symbol. -/
theorem valueAt_eq_ok_iff : valueAt offset b = .ok n ↔ n < 64 ∧ b = symbolOf n := by
  rw [← valueOf?_eq_some_iff]
  unfold valueAt
  cases valueOf? b <;> simp

/-! ### Groups -/

section Groups

variable {a b c d : Nat} (ha : a < 64) (hb : b < 64) (hc : c < 64) (hd : d < 64)

include ha hb

/-- The byte of a group of two symbols is written as the two, if no bits are left over. Else another
text would be read as the same byte. -/
theorem encode_one (hrest : b % 16 = 0) :
    encode [UInt8.ofNat (a * 4 + b / 16)] = [symbolOf a, symbolOf b, pad, pad] := by
  have hx : (UInt8.ofNat (a * 4 + b / 16)).toNat = a * 4 + b / 16 := toNat_ofNat (by omega)
  have h₁ : (a * 4 + b / 16) / 4 = a := by omega
  have h₂ : (a * 4 + b / 16) % 4 * 16 = b := by omega
  rw [encode, hx, h₁, h₂]

include hc

/-- The bytes of a group of three symbols are written as the three, if no bits are left over. -/
theorem encode_two (hrest : c % 4 = 0) :
    encode [UInt8.ofNat (a * 4 + b / 16), UInt8.ofNat (b % 16 * 16 + c / 4)] =
      [symbolOf a, symbolOf b, symbolOf c, pad] := by
  have hx : (UInt8.ofNat (a * 4 + b / 16)).toNat = a * 4 + b / 16 := toNat_ofNat (by omega)
  have hy : (UInt8.ofNat (b % 16 * 16 + c / 4)).toNat = b % 16 * 16 + c / 4 :=
    toNat_ofNat (by omega)
  have h₁ : (a * 4 + b / 16) / 4 = a := by omega
  have h₂ : (a * 4 + b / 16) % 4 * 16 + (b % 16 * 16 + c / 4) / 16 = b := by omega
  have h₃ : (b % 16 * 16 + c / 4) % 16 * 4 = c := by omega
  rw [encode, hx, hy, h₁, h₂, h₃]

include hd

/-- The bytes of a full group are written as its four symbols, before whatever follows. No bits can
be left over here. -/
theorem encode_join_append (out : List UInt8) :
    encode (join a b c d ++ out) =
      symbolOf a :: symbolOf b :: symbolOf c :: symbolOf d :: encode out := by
  have hx : (UInt8.ofNat (a * 4 + b / 16)).toNat = a * 4 + b / 16 := toNat_ofNat (by omega)
  have hy : (UInt8.ofNat (b % 16 * 16 + c / 4)).toNat = b % 16 * 16 + c / 4 :=
    toNat_ofNat (by omega)
  have hz : (UInt8.ofNat (c % 4 * 64 + d)).toNat = c % 4 * 64 + d := toNat_ofNat (by omega)
  have h₁ : (a * 4 + b / 16) / 4 = a := by omega
  have h₂ : (a * 4 + b / 16) % 4 * 16 + (b % 16 * 16 + c / 4) / 16 = b := by omega
  have h₃ : (b % 16 * 16 + c / 4) % 16 * 4 + (c % 4 * 64 + d) / 64 = c := by omega
  have h₄ : (c % 4 * 64 + d) % 64 = d := by omega
  unfold join
  rw [List.cons_append, List.cons_append, List.cons_append, List.nil_append, encode, hx, hy, hz,
    h₁, h₂, h₃, h₄]

end Groups

/-! ### The last group -/

/-- Values with the symbols that they are read from. -/
def withSymbols (ns : List Nat) : List (Nat × UInt8) := ns.map fun n => (n, symbolOf n)

/-- Once there is padding, only padding is left: a symbol behind it is refused. The induction is on
what is left of the text, with as much padding as has been seen. -/
theorem readTail_of_pads (hpads : 0 < t.pads) (h : readTail offset t index bs = .ok t') :
    ∃ k, bs = List.replicate k pad ∧ t'.values = t.values ∧ t'.pads = t.pads + k := by
  induction bs generalizing t index with
  | nil =>
    cases h
    exact ⟨0, rfl, rfl, rfl⟩
  | cons b r ih =>
    unfold readTail at h
    -- Another pad counts on, anything else is refused.
    by_cases hb : b = pad
    · rw [if_pos hb] at h
      split at h
      · cases h
      · obtain ⟨k, hr, hvalues, hcount⟩ := ih (Nat.succ_pos _) h
        refine ⟨k + 1, by rw [hb, hr, List.replicate_succ], hvalues, ?_⟩
        rw [hcount]
        dsimp only
        omega
    · rw [if_neg hb, if_pos hpads] at h
      cases h

/-- A group that is read is symbols followed by padding, which needs two symbols before it. Whether
the two fill the group is checked when it is finished. -/
theorem readTail_eq_ok (hpads : t.pads = 0) (h : readTail offset t index bs = .ok t') :
    ∃ ns k, (∀ n ∈ ns, n < 64) ∧ bs = ns.map symbolOf ++ List.replicate k pad ∧
      t'.values = t.values ++ withSymbols ns ∧ t'.pads = k ∧ (0 < k → 2 ≤ index + ns.length) := by
  induction bs generalizing t index with
  | nil =>
    cases h
    exact ⟨[], 0, by simp, rfl, by simp [withSymbols], hpads, by simp⟩
  | cons b r ih =>
    unfold readTail at h
    -- The first pad ends the symbols, which must be two at least by then.
    by_cases hb : b = pad
    · rw [if_pos hb] at h
      split at h
      · cases h
      · rename_i hindex
        obtain ⟨k, hr, hvalues, hcount⟩ := readTail_of_pads (Nat.succ_pos _) h
        refine ⟨[], k + 1, by simp, by rw [hb, hr]; rfl, by simpa [withSymbols] using hvalues,
          ?_, fun _ => ?_⟩
        · rw [hcount]
          dsimp only
          omega
        · rw [List.length_nil]
          omega
    · rw [if_neg hb, if_neg (by omega)] at h
      cases hn : valueOf? b with
      | none =>
        rw [hn] at h
        cases h
      | some n =>
        rw [hn] at h
        obtain ⟨hlt, rfl⟩ := valueOf?_eq_some_iff.1 hn
        obtain ⟨ns, k, hns, hr, hvalues, hcount, hplace⟩ :=
          ih (t := { t with values := t.values ++ [(n, symbolOf n)] }) hpads h
        refine ⟨n :: ns, k, List.forall_mem_cons.2 ⟨hlt, hns⟩, by rw [hr]; rfl, ?_, hcount,
          fun hk => ?_⟩
        · rw [hvalues, List.append_assoc]
          rfl
        · have := hplace hk
          rw [List.length_cons]
          omega

/-- A symbol at the start of the last group is added to its values. -/
theorem readTail_symbol (hn : n < 64) (hpads : t.pads = 0) (r : List UInt8) :
    readTail offset t index (symbolOf n :: r) =
      readTail offset { t with values := t.values ++ [(n, symbolOf n)] } (index + 1) r := by
  rw [readTail, if_neg (symbolOf_ne_pad n hn), if_neg (by omega), valueOf?_symbolOf n hn]

/-- Symbols at the start of the last group are added to its values, one by one. -/
theorem readTail_symbols (hns : ∀ n ∈ ns, n < 64) (hpads : t.pads = 0) (r : List UInt8) :
    readTail offset t index (ns.map symbolOf ++ r) =
      readTail offset { t with values := t.values ++ withSymbols ns } (index + ns.length) r := by
  induction ns generalizing t index with
  | nil => simp [withSymbols]
  | cons n ns ih =>
    obtain ⟨hn, hns⟩ := List.forall_mem_cons.1 hns
    have hrest : readTail offset { t with values := t.values ++ [(n, symbolOf n)] } (index + 1)
        (ns.map symbolOf ++ r) = _ := ih hns hpads
    rw [List.append_assoc] at hrest
    rw [List.length_cons, Nat.add_comm ns.length, ← Nat.add_assoc]
    exact (readTail_symbol hn hpads _).trans hrest

/-- Padding is read to its end when two symbols or more come before it. Where it starts is kept for
a message only. -/
theorem readTail_padding (hindex : 2 ≤ index) (k : Nat) : ∃ first,
    readTail offset t index (List.replicate k pad) = .ok ⟨t.values, t.pads + k, first⟩ := by
  induction k generalizing t index with
  | zero => exact ⟨t.firstPad, rfl⟩
  | succ k ih =>
    rw [List.replicate_succ, readTail, if_pos rfl, if_neg (by omega), Nat.add_comm k,
      ← Nat.add_assoc]
    exact ih (by omega)

/-- Two symbols or more are read as a last group, with any padding. -/
theorem readTail_group (offset : Nat) (hns : ∀ n ∈ ns, n < 64) (hleast : 2 ≤ ns.length) (k : Nat) :
    ∃ first,
    readTail offset ⟨[], 0, 0⟩ 0 (ns.map symbolOf ++ List.replicate k pad) =
      .ok ⟨withSymbols ns, k, first⟩ := by
  rw [readTail_symbols hns rfl, Nat.zero_add, List.nil_append]
  simpa using readTail_padding (t := ⟨withSymbols ns, 0, 0⟩) hleast k

section Finish

variable {a b c d pads first : Nat}

/-- A group of two symbols is finished when padding fills it and its last four bits are zero. -/
theorem finish_two : finish offset ⟨withSymbols [a, b], pads, first⟩ = .ok out ↔
    (pads + 2) % 4 = 0 ∧ b % 16 = 0 ∧ out = [UInt8.ofNat (a * 4 + b / 16)] := by
  simp only [finish, withSymbols, List.map_cons, List.map_nil, List.length_cons, List.length_nil]
  grind

/-- A group of three symbols is finished when padding fills it and its last two bits are zero. -/
theorem finish_three : finish offset ⟨withSymbols [a, b, c], pads, first⟩ = .ok out ↔
    (pads + 3) % 4 = 0 ∧ c % 4 = 0 ∧
      out = [UInt8.ofNat (a * 4 + b / 16), UInt8.ofNat (b % 16 * 16 + c / 4)] := by
  simp only [finish, withSymbols, List.map_cons, List.map_nil, List.length_cons, List.length_nil]
  grind

/-- A group of four symbols is finished when there is no padding. No bits are left over. -/
theorem finish_four : finish offset ⟨withSymbols [a, b, c, d], pads, first⟩ = .ok out ↔
    (pads + 4) % 4 = 0 ∧ out = join a b c d := by
  simp only [finish, withSymbols, List.map_cons, List.map_nil, List.length_cons, List.length_nil]
  grind

end Finish

/-- A last group that is read is what is written for its bytes. It has two, three or four symbols,
and each length has its own way of being finished. -/
theorem encode_of_finish (hshort : bs.length ≤ 4)
    (h : (readTail offset ⟨[], 0, 0⟩ 0 bs >>= finish offset) = .ok out) : bs = encode out := by
  obtain ⟨⟨values, pads, _⟩, ht, hfinish⟩ := except_bind_eq_ok.1 h
  obtain ⟨ns, k, hns, rfl, hvalues, hpads, -⟩ := readTail_eq_ok rfl ht
  dsimp only [List.nil_append] at hvalues hpads
  subst hvalues hpads
  rw [List.length_append, List.length_map, List.length_replicate] at hshort
  -- The group has two to four symbols, and padding fills it up to four bytes.
  match ns with
  | [] | [_] => cases hfinish
  | [a, b] =>
    obtain ⟨hfull, hrest, rfl⟩ := finish_two.1 hfinish
    obtain ⟨ha, hb⟩ : a < 64 ∧ b < 64 := by simpa using hns
    obtain rfl : pads = 2 := by
      rw [List.length_cons, List.length_singleton] at hshort
      omega
    exact (encode_one ha hb hrest).symm
  | [a, b, c] =>
    obtain ⟨hfull, hrest, rfl⟩ := finish_three.1 hfinish
    obtain ⟨ha, hb, hc⟩ : a < 64 ∧ b < 64 ∧ c < 64 := by simpa using hns
    obtain rfl : pads = 1 := by
      rw [List.length_cons, List.length_cons, List.length_singleton] at hshort
      omega
    exact (encode_two ha hb hc hrest).symm
  | [a, b, c, d] =>
    obtain ⟨hfull, rfl⟩ := finish_four.1 hfinish
    obtain ⟨ha, hb, hc, hd⟩ : a < 64 ∧ b < 64 ∧ c < 64 ∧ d < 64 := by simpa using hns
    obtain rfl : pads = 0 := by
      rw [List.length_cons, List.length_cons, List.length_cons, List.length_singleton] at hshort
      omega
    exact (encode_join_append ha hb hc hd []).symm
  | a :: b :: c :: d :: e :: r =>
    simp only [List.length_cons] at hshort
    omega

/-! ### Texts -/

/-- What is read from an offset on is what is written for its bytes. The induction follows the
reader: a full group that something comes after, or the last group. -/
theorem eq_encode_of_decodeFrom (h : decodeFrom offset bs = .ok out) : bs = encode out := by
  -- Five bytes or more start with a full group, and four or fewer are the last one.
  fun_induction decodeFrom offset bs generalizing out with
  | case1 offset a b c d e r ih =>
    obtain ⟨na, hna, h⟩ := except_bind_eq_ok.1 h
    obtain ⟨nb, hnb, h⟩ := except_bind_eq_ok.1 h
    obtain ⟨nc, hnc, h⟩ := except_bind_eq_ok.1 h
    obtain ⟨nd, hnd, h⟩ := except_bind_eq_ok.1 h
    obtain ⟨rest, hrest, h⟩ := except_bind_eq_ok.1 h
    cases h
    obtain ⟨ha, rfl⟩ := valueAt_eq_ok_iff.1 hna
    obtain ⟨hb, rfl⟩ := valueAt_eq_ok_iff.1 hnb
    obtain ⟨hc, rfl⟩ := valueAt_eq_ok_iff.1 hnc
    obtain ⟨hd, rfl⟩ := valueAt_eq_ok_iff.1 hnd
    rw [encode_join_append ha hb hc hd, ← ih hrest]
  | case2 offset last hlast =>
    refine encode_of_finish ?_ h
    match last with
    | [] | [_] | [_, _] | [_, _, _] | [_, _, _, _] => simp
    | a :: b :: c :: d :: e :: r => exact absurd rfl (hlast a b c d e r)

/-- A group of two symbols or more that is filled up to four is read as the last one, because
nothing is left that a full group would need to have behind it. -/
theorem decodeFrom_group (offset k : Nat) (hns : ∀ n ∈ ns, n < 64) (hleast : 2 ≤ ns.length)
    (hfull : ns.length + k = 4) : ∃ first,
    decodeFrom offset (ns.map symbolOf ++ List.replicate k pad) =
      finish offset ⟨withSymbols ns, k, first⟩ := by
  obtain ⟨first, hread⟩ := readTail_group offset hns hleast k
  refine ⟨first, ?_⟩
  rw [decodeFrom, hread]
  · rfl
  · rintro a b c d e r h
    have hlength := congrArg List.length h
    simp only [List.length_append, List.length_map, List.length_replicate, List.length_cons]
      at hlength
    omega

/-- A full group that is not the last one is read before what follows it. -/
theorem decodeFrom_full {a b c d : Nat} (ha : a < 64) (hb : b < 64) (hc : c < 64) (hd : d < 64)
    (hne : bs ≠ []) (h : decodeFrom (offset + 4) bs = .ok out) :
    decodeFrom offset (symbolOf a :: symbolOf b :: symbolOf c :: symbolOf d :: bs) =
      .ok (join a b c d ++ out) := by
  obtain ⟨e, r, rfl⟩ := List.exists_cons_of_ne_nil hne
  rw [decodeFrom, valueAt_eq_ok_iff.2 ⟨ha, rfl⟩, valueAt_eq_ok_iff.2 ⟨hb, rfl⟩,
    valueAt_eq_ok_iff.2 ⟨hc, rfl⟩, valueAt_eq_ok_iff.2 ⟨hd, rfl⟩, h]
  rfl

/-- The four values that three bytes are split into are joined to the bytes. Each of them has six
bits, so the two bytes that are divided among them come together again. -/
theorem join_of_bytes (x y z : UInt8) :
    join (x.toNat / 4) (x.toNat % 4 * 16 + y.toNat / 16) (y.toNat % 16 * 4 + z.toNat / 64)
      (z.toNat % 64) = [x, y, z] := by
  have hy := y.toNat_lt
  have hz := z.toNat_lt
  have h₁ : x.toNat / 4 * 4 + (x.toNat % 4 * 16 + y.toNat / 16) / 16 = x.toNat := by omega
  have h₂ : (x.toNat % 4 * 16 + y.toNat / 16) % 16 * 16 + (y.toNat % 16 * 4 + z.toNat / 64) / 4 =
      y.toNat := by omega
  have h₃ : (y.toNat % 16 * 4 + z.toNat / 64) % 4 * 64 + z.toNat % 64 = z.toNat := by omega
  rw [join, h₁, h₂, h₃, UInt8.ofNat_toNat, UInt8.ofNat_toNat, UInt8.ofNat_toNat]

/-- Bytes are written as some text, unless there are none. So an empty text stands for no bytes. -/
theorem encode_ne_nil (hne : out ≠ []) : encode out ≠ [] := by
  fun_cases encode out with
  | case1 => exact absurd rfl hne
  | case2 | case3 | case4 => exact List.cons_ne_nil _ _

/-- What is written is read from any offset on. The induction follows the writer, whose last group
holds one, two or three bytes. -/
theorem decodeFrom_encode (offset : Nat) (hne : out ≠ []) :
    decodeFrom offset (encode out) = .ok out := by
  fun_induction encode out generalizing offset with
  | case1 => exact absurd rfl hne
  | case2 x =>
    have hx := x.toNat_lt
    have hns : ∀ n ∈ [x.toNat / 4, x.toNat % 4 * 16], n < 64 := by simp; omega
    obtain ⟨first, hread⟩ := decodeFrom_group offset 2 hns (by simp) rfl
    refine hread.trans (finish_two.2 ⟨rfl, by omega, ?_⟩)
    have h₁ : x.toNat / 4 * 4 + x.toNat % 4 * 16 / 16 = x.toNat := by omega
    rw [h₁, UInt8.ofNat_toNat]
  | case3 x y =>
    have hx := x.toNat_lt
    have hy := y.toNat_lt
    have hns : ∀ n ∈ [x.toNat / 4, x.toNat % 4 * 16 + y.toNat / 16, y.toNat % 16 * 4], n < 64 := by
      simp
      omega
    obtain ⟨first, hread⟩ := decodeFrom_group offset 1 hns (by simp) rfl
    refine hread.trans (finish_three.2 ⟨rfl, by omega, ?_⟩)
    have h₁ : x.toNat / 4 * 4 + (x.toNat % 4 * 16 + y.toNat / 16) / 16 = x.toNat := by omega
    have h₂ : (x.toNat % 4 * 16 + y.toNat / 16) % 16 * 16 + y.toNat % 16 * 4 / 4 = y.toNat := by
      omega
    rw [h₁, h₂, UInt8.ofNat_toNat, UInt8.ofNat_toNat]
  | case4 x y z r ih =>
    have hx := x.toNat_lt
    have hy := y.toNat_lt
    have hz := z.toNat_lt
    have ha : x.toNat / 4 < 64 := by omega
    have hb : x.toNat % 4 * 16 + y.toNat / 16 < 64 := by omega
    have hc : y.toNat % 16 * 4 + z.toNat / 64 < 64 := by omega
    have hd : z.toNat % 64 < 64 := by omega
    have hjoin := join_of_bytes x y z
    -- The last group is read by another rule, though it be full.
    by_cases hr : r = []
    · subst hr
      have hns : ∀ n ∈ [x.toNat / 4, x.toNat % 4 * 16 + y.toNat / 16,
          y.toNat % 16 * 4 + z.toNat / 64, z.toNat % 64], n < 64 := by
        simpa using ⟨ha, hb, hc, hd⟩
      obtain ⟨first, hread⟩ := decodeFrom_group offset 0 hns (by simp) rfl
      exact hread.trans (finish_four.2 ⟨rfl, hjoin.symm⟩)
    · refine (decodeFrom_full ha hb hc hd (encode_ne_nil hr) (ih (offset + 4) hr)).trans ?_
      rw [hjoin]
      rfl

/-- What is written has a multiple of four symbols. The padding fills the last group, which a reader
asks for. -/
theorem length_encode (out : List UInt8) : (encode out).length % 4 = 0 := by
  fun_induction encode out with
  | case1 => rfl
  | case2 x => simp
  | case3 x y => simp
  | case4 x y z r ih =>
    simp only [List.length_cons]
    omega

/-- What is written is read back, the empty text as no bytes. So two keys with the same text are the
same key. -/
theorem decode_encode (out : List UInt8) : decode (encode out) = .ok out := by
  unfold decode
  split
  · rename_i h
    by_cases hne : out = []
    · rw [hne]
    · exact absurd h (encode_ne_nil hne)
  · rename_i h
    have hne : out ≠ [] := by
      rintro rfl
      exact h rfl
    -- The groups are full, so that no byte stands alone behind them.
    rw [length_encode out]
    exact decodeFrom_encode 0 hne

/-- A text that is read is what is written for its bytes, so no text has stray bits, missing padding
or anything else that another text of the same bytes could have. -/
theorem eq_encode_of_decode (h : decode bs = .ok out) : bs = encode out := by
  unfold decode at h
  split at h
  · cases h
    rfl
  · split at h
    · split at h
      · cases h
      · exact eq_encode_of_decodeFrom h
    · exact eq_encode_of_decodeFrom h

/-- Reading accepts exactly what writing produces. What a key may be is told by this, without
looking at the reader again. -/
theorem decode_eq_ok_iff : decode bs = .ok out ↔ bs = encode out := by
  constructor
  · exact eq_encode_of_decode
  · rintro rfl
    exact decode_encode out

/-- Bytes that are written alike are the same, as both are what is read from the text. -/
theorem encode_injective : Function.Injective encode := fun a b h => by
  have hdecode := decode_encode a
  rw [h, decode_encode] at hdecode
  exact (Except.ok.inj hdecode).symm

end DeviceRegistry.Base64
