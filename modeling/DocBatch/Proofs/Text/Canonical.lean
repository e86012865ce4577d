import Mathlib.Tactic.Common
import DocBatch.Proofs.Text.RoundTrip

/-!
# One written form per text

Both text codings of the library read only what they write: decoding is the inverse of
encoding on the whole of what it accepts, not only on what was written.

* UTF-8: octets that decode are the encoding of what they decode to
  (`Utf8.flatMap_encodeChar_of_decodeChars`), so `decode? bs = some s ↔ encode s = bs`
  (`Utf8.decode?_eq_some_iff`). The decoder refuses overlong forms, surrogates and values past
  U+10FFFF through the ranges of the second octet; those ranges are what make each decoded
  character encode back to its own octets.
* Base64: strict decoding accepts only the text the encoder writes for what it decodes to
  (`Base64.encode_of_decode`): the standard alphabet, padding to a whole group and no set
  unused bits. Together with `Base64.decode_encode`, every octet string has exactly one
  base64 text.
-/

namespace DocBatch

namespace Utf8

theorem secondRange_eq_two {b : UInt8} {lo hi : Nat} (h : secondRange b = some (lo, hi, 2)) :
    0xC2 ≤ b.toNat ∧ b.toNat ≤ 0xDF ∧ lo = 0x80 ∧ hi = 0xBF := by
  unfold secondRange at h
  dsimp only at h
  split_ifs at h <;> simp_all

theorem secondRange_eq_three {b : UInt8} {lo hi : Nat} (h : secondRange b = some (lo, hi, 3)) :
    0xE0 ≤ b.toNat ∧ b.toNat ≤ 0xEF ∧ lo = (if b.toNat = 0xE0 then 0xA0 else 0x80) ∧
      hi = (if b.toNat = 0xED then 0x9F else 0xBF) := by
  unfold secondRange at h
  dsimp only at h
  split_ifs at h <;> simp_all <;> omega

theorem secondRange_eq_four {b : UInt8} {lo hi : Nat} (h : secondRange b = some (lo, hi, 4)) :
    0xF0 ≤ b.toNat ∧ b.toNat ≤ 0xF4 ∧ lo = (if b.toNat = 0xF0 then 0x90 else 0x80) ∧
      hi = (if b.toNat = 0xF4 then 0x8F else 0xBF) := by
  unfold secondRange at h
  dsimp only at h
  split_ifs at h <;> simp_all
  omega

theorem encodeChar_two {b0 b1 : UInt8} (h0 : 0xC2 ≤ b0.toNat ∧ b0.toNat ≤ 0xDF)
    (h1 : 0x80 ≤ b1.toNat ∧ b1.toNat ≤ 0xBF) :
    encodeChar (Char.ofNat (b0.toNat % 32 * 64 + low6 b1)) = [b0, b1] := by
  have hn : 0x80 ≤ b0.toNat % 32 * 64 + low6 b1 ∧ b0.toNat % 32 * 64 + low6 b1 < 0x800 := by
    unfold low6; omega
  rw [encodeChar, Char.toNat_ofNat_of_lt (by omega)]
  rw [if_neg (by omega), if_pos hn.2]
  unfold low6
  simp only [List.cons.injEq, and_true]
  exact ⟨Base64.toUInt8_eq (by omega), Base64.toUInt8_eq (by omega)⟩

theorem encodeChar_three {b0 b1 b2 : UInt8} {lo hi : Nat} (hs : secondRange b0 = some (lo, hi, 3))
    (h1 : lo ≤ b1.toNat ∧ b1.toNat ≤ hi) (h2 : isCont b2 = true) :
    encodeChar (Char.ofNat (b0.toNat % 16 * 4096 + low6 b1 * 64 + low6 b2)) = [b0, b1, b2] := by
  obtain ⟨h0, h0', rfl, rfl⟩ := secondRange_eq_three hs
  simp only [isCont, Bool.and_eq_true, decide_eq_true_eq] at h2
  unfold low6
  have hn : 0x800 ≤ b0.toNat % 16 * 4096 + b1.toNat % 64 * 64 + b2.toNat % 64 ∧
      b0.toNat % 16 * 4096 + b1.toNat % 64 * 64 + b2.toNat % 64 < 0x10000 ∧
      (b0.toNat % 16 * 4096 + b1.toNat % 64 * 64 + b2.toNat % 64 < 0xD800 ∨
        0xDFFF < b0.toNat % 16 * 4096 + b1.toNat % 64 * 64 + b2.toNat % 64) := by
    split_ifs at h1 <;> omega
  rw [encodeChar, Char.toNat_ofNat_of_valid (by unfold Nat.isValidChar; omega)]
  rw [if_neg (by omega), if_neg (by omega), if_pos hn.2.1]
  simp only [List.cons.injEq, and_true]
  refine ⟨Base64.toUInt8_eq ?_, Base64.toUInt8_eq ?_, Base64.toUInt8_eq ?_⟩ <;> split_ifs at h1 <;> omega

theorem encodeChar_four {b0 b1 b2 b3 : UInt8} {lo hi : Nat} (hs : secondRange b0 = some (lo, hi, 4))
    (h1 : lo ≤ b1.toNat ∧ b1.toNat ≤ hi) (h2 : isCont b2 = true) (h3 : isCont b3 = true) :
    encodeChar (Char.ofNat (b0.toNat % 8 * 262144 + low6 b1 * 4096 + low6 b2 * 64 + low6 b3)) =
      [b0, b1, b2, b3] := by
  obtain ⟨h0, h0', rfl, rfl⟩ := secondRange_eq_four hs
  simp only [isCont, Bool.and_eq_true, decide_eq_true_eq] at h2 h3
  unfold low6
  have hn : 0x10000 ≤ b0.toNat % 8 * 262144 + b1.toNat % 64 * 4096 + b2.toNat % 64 * 64 + b3.toNat % 64 ∧
      b0.toNat % 8 * 262144 + b1.toNat % 64 * 4096 + b2.toNat % 64 * 64 + b3.toNat % 64 < 0x110000 := by
    split_ifs at h1 <;> omega
  rw [encodeChar, Char.toNat_ofNat_of_valid (by unfold Nat.isValidChar; omega)]
  rw [if_neg (by omega), if_neg (by omega), if_neg (by omega)]
  simp only [List.cons.injEq, and_true]
  refine ⟨Base64.toUInt8_eq ?_, Base64.toUInt8_eq ?_, Base64.toUInt8_eq ?_, Base64.toUInt8_eq ?_⟩ <;>
    split_ifs at h1 <;> omega

/-- Octets that decode are the UTF-8 of what they decode to: decoding accepts one form per
text. -/
theorem flatMap_encodeChar_of_decodeChars {bs : Bytes} {cs : List Char} (h : decodeChars bs = some cs) :
    cs.flatMap encodeChar = bs := by
  fun_induction decodeChars bs generalizing cs with
  | case1 => simp_all
  | case2 b0 rest hb ih =>
    obtain ⟨cs', hcs', rfl⟩ := Option.map_eq_some_iff.1 h
    rw [List.flatMap_cons, encodeChar_ascii hb, ih hcs', List.singleton_append]
  | case3 b0 _ lo hi b1 r hs h1 ih =>
    obtain ⟨cs', hcs', rfl⟩ := Option.map_eq_some_iff.1 h
    obtain ⟨h0, h0', rfl, rfl⟩ := secondRange_eq_two hs
    simp only [Bool.and_eq_true, decide_eq_true_eq] at h1
    rw [List.flatMap_cons, encodeChar_two ⟨h0, h0'⟩ h1, ih hcs']
    rfl
  | case5 b0 _ lo hi b1 b2 r hs h1 ih =>
    obtain ⟨cs', hcs', rfl⟩ := Option.map_eq_some_iff.1 h
    simp only [Bool.and_eq_true, decide_eq_true_eq] at h1
    rw [List.flatMap_cons, encodeChar_three hs h1.1 h1.2, ih hcs']
    rfl
  | case7 b0 _ lo hi b1 b2 b3 r hs h1 ih =>
    obtain ⟨cs', hcs', rfl⟩ := Option.map_eq_some_iff.1 h
    simp only [Bool.and_eq_true, decide_eq_true_eq] at h1
    rw [List.flatMap_cons, encodeChar_four hs h1.1.1 h1.1.2 h1.2, ih hcs']
    rfl
  | case4 | case6 | case8 | case9 => cases h

theorem decode?_eq_some_iff {bs : Bytes} {s : String} : decode? bs = some s ↔ encode s = bs := by
  constructor
  · intro h
    obtain ⟨cs, hcs, rfl⟩ := Option.map_eq_some_iff.1 h
    rw [encode, String.toList_ofList, flatMap_encodeChar_of_decodeChars hcs]
  · rintro rfl
    exact decode?_encode s

theorem encode_injective {s t : String} (h : encode s = encode t) : s = t := by
  have hs := decode?_encode s
  rwa [h, decode?_encode, Option.some.injEq, eq_comm] at hs

end Utf8

namespace Base64

/-- The code of a sextet's symbol. -/
theorem toNat_symbol {v : Nat} (hv : v < 64) :
    (symbol v).toNat =
      if v < 26 then v + 65 else if v < 52 then v + 71 else if v < 62 then v - 4
      else if v = 62 then 43 else 47 := by
  unfold symbol
  split_ifs
  · rw [Utf8.toNat_toUInt8 (by omega)]
    omega
  · rw [Utf8.toNat_toUInt8 (by omega)]
    omega
  · rw [Utf8.toNat_toUInt8 (by omega)]
    omega
  · rfl
  · rfl

/-- A symbol of the alphabet is the symbol of the sextet it stands for. -/
theorem symbol_of_sextet? {b : UInt8} {v : Nat} (h : sextet? b = some v) : v < 64 ∧ symbol v = b := by
  have hb := b.toNat_lt
  unfold sextet? at h
  simp only [Bool.and_eq_true, decide_eq_true_eq] at h
  split_ifs at h <;> cases h <;>
    exact ⟨by omega, by rw [← UInt8.toNat_inj, toNat_symbol (by omega)]; split_ifs <;> omega⟩

theorem elim_eq_ok {α : Type} {o : Option α} {e : DecodeError} {a : α}
    (h : o.elim (.error e) .ok = (.ok a : Except DecodeError α)) : o = some a := by
  cases o <;> simp_all [Option.elim]

/-- Complete groups that decode are the encoding of what they decode to. -/
theorem encodeBytes_of_decodeGroups : ∀ {off : Nat} {xs ys : Bytes}, decodeGroups off xs = .ok ys →
    xs.length % 4 = 0 → encodeBytes ys = xs ∧ ys.length % 3 = 0
  | _, [], _, h, _ => by
    cases h
    exact ⟨rfl, rfl⟩
  | _, [_], _, _, hx | _, [_, _], _, _, hx | _, [_, _, _], _, _, hx => by simp at hx
  | off, a :: b :: c :: d :: rest, ys, h, hx => by
    rw [decodeGroups] at h
    simp only [bind, Except.bind] at h
    split at h; · cases h
    rename_i va hva
    split at h; · cases h
    rename_i vb hvb
    split at h; · cases h
    rename_i vc hvc
    split at h; · cases h
    rename_i vd hvd
    split at h; · cases h
    rename_i tail htail
    simp only [pure, Except.pure, Except.ok.injEq] at h
    subst h
    obtain ⟨hva, rfl⟩ := symbol_of_sextet? (elim_eq_ok hva)
    obtain ⟨hvb, rfl⟩ := symbol_of_sextet? (elim_eq_ok hvb)
    obtain ⟨hvc, rfl⟩ := symbol_of_sextet? (elim_eq_ok hvc)
    obtain ⟨hvd, rfl⟩ := symbol_of_sextet? (elim_eq_ok hvd)
    simp only [List.length_cons] at hx
    obtain ⟨htail, hlen⟩ := encodeBytes_of_decodeGroups htail (by omega)
    have e₁ := Utf8.toNat_toUInt8 (show (va * 262144 + vb * 4096 + vc * 64 + vd) / 65536 < 256 by omega)
    have e₂ := Utf8.toNat_toUInt8 (show (va * 262144 + vb * 4096 + vc * 64 + vd) / 256 % 256 < 256 by omega)
    have e₃ := Utf8.toNat_toUInt8 (show (va * 262144 + vb * 4096 + vc * 64 + vd) % 256 < 256 by omega)
    simp only [encodeBytes, e₁, e₂, e₃, htail, List.length_cons, List.cons.injEq]
    refine ⟨⟨congrArg symbol ?_, congrArg symbol ?_, congrArg symbol ?_, congrArg symbol ?_, trivial⟩, by omega⟩ <;> omega

/-- What the last group reads is its sextets' symbols, then padding only; nothing but padding
follows the first padding symbol. -/
theorem readTail_ok {off : Nat} : ∀ {i : Nat} {t t' : Tail} {bs : Bytes}, readTail off i t bs = .ok t' →
    ∃ vs p, bs = vs.map symbol ++ List.replicate p pad ∧ (∀ v ∈ vs, v < 64) ∧
      (0 < t.padding → vs = []) ∧ t'.sextets = t.sextets ++ vs ∧ t'.padding = t.padding + p
  | i, t, t', [], h => by
    cases h
    exact ⟨[], 0, rfl, by simp, fun _ => rfl, by simp, rfl⟩
  | i, t, t', b :: rest, h => by
    by_cases hpad : b = pad
    · subst hpad
      rw [readTail, if_pos rfl] at h
      by_cases hi : i < 2
      · rw [if_pos hi] at h
        cases h
      rw [if_neg hi] at h
      dsimp only at h
      generalize ht₀ : (if t.padding = 0 then { t with firstPad := i } else t) = t₀ at h
      have h₀ : t₀.sextets = t.sextets ∧ t₀.padding = t.padding := by
        subst ht₀
        split <;> exact ⟨rfl, rfl⟩
      obtain ⟨vs, p, hrest, -, hnil, hs, hp⟩ := readTail_ok h
      obtain rfl := hnil (by dsimp only; omega)
      refine ⟨[], p + 1, by simp [hrest, List.replicate_succ], by simp, fun _ => rfl, ?_, ?_⟩
      · simp [hs, h₀.1]
      · simp only at hp
        omega
    · rw [readTail, if_neg hpad] at h
      split_ifs at h with hpadding
      split at h
      · cases h
      · rename_i v hv
        obtain ⟨hv64, rfl⟩ := symbol_of_sextet? hv
        obtain ⟨vs, p, hrest, hvs, -, hs, hp⟩ := readTail_ok h
        refine ⟨v :: vs, p, by simp [hrest], ?_, fun h => by omega, by simp [hs], by simpa using hp⟩
        intro w hw
        rcases List.mem_cons.1 hw with rfl | hw
        · exact hv64
        · exact hvs w hw


theorem encodeBytes_of_decodeTail {whole off : Nat} {rest out : Bytes}
    (h : decodeTail whole off rest = .ok out) (hw : whole ≠ 0) (hlen : rest.length ≤ 4) :
    encodeBytes out = rest := by
  unfold decodeTail at h
  simp only [bind, Except.bind] at h
  split at h
  · cases h
  rename_i t ht
  obtain ⟨vs, p, rfl, hvs, -, hs, hp⟩ := readTail_ok ht
  simp only [List.nil_append, Nat.zero_add] at hs hp
  simp only [hs, hp] at h
  simp only [List.length_append, List.length_map, List.length_replicate] at hlen
  rcases vs with _ | ⟨v0, _ | ⟨v1, _ | ⟨v2, _ | ⟨v3, _ | ⟨v4, rest⟩⟩⟩⟩⟩
  · simp [hw] at h
  · simp [hw] at h
  · -- no `Nat.add_zero` in these lists, which would leave the kernel unfolding products by the
    -- large powers of two
    simp only [List.length_cons, List.length_nil, Nat.zero_add, Nat.reduceAdd, Nat.lt_irrefl,
      decide_false, Bool.and_false, Bool.false_eq_true, ↓reduceIte, bne_iff_ne, ne_eq, Nat.reduceSub,
      List.reduceReplicate, List.cons_append, List.nil_append, List.getD_eq_getElem?_getD,
      Nat.zero_lt_succ, getElem?_pos, List.getElem_cons_zero, Option.getD_some, Nat.pow_eq,
      Nat.reducePow, Nat.reduceLT, List.getElem_cons_succ, Nat.zero_mul, Nat.lt_add_one, Nat.reduceMul,
      Nat.reduceDiv, Nat.mul_one, Nat.add_one_sub_one, Nat.toUInt8_eq, List.range_one, List.map_cons,
      Nat.mul_zero, Nat.sub_zero, List.map_nil, ite_not] at h
    have hv0 := hvs v0 (by simp)
    have hv1 := hvs v1 (by simp)
    split_ifs at h with hpad hbits
    · simp only [pure, Except.pure, Except.ok.injEq] at h
      subst h
      obtain rfl : p = 2 := by simp at hlen; omega
      simp only [encodeBytes, UInt8.toNat_ofNat', List.map_cons, List.map_nil, List.replicate_succ,
        List.replicate_zero, List.cons_append, List.nil_append, List.cons.injEq, and_true]
      exact ⟨congrArg symbol (by omega), congrArg symbol (by omega)⟩
  · simp only [List.length_cons, List.length_nil, Nat.zero_add, Nat.reduceAdd, Nat.reduceLT,
      decide_false, Bool.and_false, Bool.false_eq_true, ↓reduceIte, bne_iff_ne, ne_eq, Nat.reduceSub,
      List.replicate_one, List.cons_append, List.nil_append, List.getD_eq_getElem?_getD,
      Nat.zero_lt_succ, getElem?_pos, List.getElem_cons_zero, Option.getD_some, Nat.pow_eq,
      Nat.reducePow, List.getElem_cons_succ, Nat.lt_add_one, Nat.zero_mul, Nat.reduceMul, Nat.reduceDiv,
      Nat.add_one_sub_one, Nat.toUInt8_eq, ite_not] at h
    have hv0 := hvs v0 (by simp)
    have hv1 := hvs v1 (by simp)
    have hv2 := hvs v2 (by simp)
    split_ifs at h with hpad hbits
    simp only [pure, Except.pure, Except.ok.injEq] at h
    subst h
    obtain rfl : p = 1 := by simp at hlen; omega
    simp only [List.range_succ, List.range_zero, List.nil_append, List.map_cons,
      List.map_nil, List.cons_append, Nat.mul_zero, Nat.sub_zero, Nat.mul_one, Nat.reduceSub,
      Nat.reducePow, encodeBytes, UInt8.toNat_ofNat', List.replicate_succ, List.replicate_zero,
      List.cons.injEq, and_true]
    exact ⟨congrArg symbol (by omega), congrArg symbol (by omega), congrArg symbol (by omega)⟩
  · simp at h
    have hv0 := hvs v0 (by simp)
    have hv1 := hvs v1 (by simp)
    have hv2 := hvs v2 (by simp)
    have hv3 := hvs v3 (by simp)
    split_ifs at h with hpad hbits
    clear hbits
    simp only [pure, Except.pure, Except.ok.injEq] at h
    subst h
    obtain rfl : p = 0 := by simp at hlen; omega
    simp only [List.range_succ, List.range_zero, List.nil_append, List.map_cons,
      List.map_nil, List.cons_append, Nat.mul_zero, Nat.sub_zero, Nat.mul_one, Nat.reduceSub,
      Nat.reduceMul, Nat.reducePow, encodeBytes, UInt8.toNat_ofNat', List.replicate_zero,
      List.append_nil, List.cons.injEq, and_true]
    have hn : (v0 * 67108864 + v1 * 1048576 + v2 * 16384 + v3 * 256) / 16777216 % 256 % 256 * 65536 +
        (v0 * 67108864 + v1 * 1048576 + v2 * 16384 + v3 * 256) / 65536 % 256 % 256 * 256 +
        (v0 * 67108864 + v1 * 1048576 + v2 * 16384 + v3 * 256) / 256 % 256 % 256 =
        v0 * 262144 + v1 * 4096 + v2 * 64 + v3 := by
      omega
    rw [hn]
    exact ⟨congrArg symbol (by omega), congrArg symbol (by omega), congrArg symbol (by omega),
      congrArg symbol (by omega)⟩
  · simp at hlen
    omega


theorem encodeBytes_of_decodeBytes {input out : Bytes} (h : decodeBytes input = .ok out) :
    encodeBytes out = input := by
  cases input with
  | nil =>
    cases h
    rfl
  | cons b rest =>
  generalize hinput : b :: rest = input at h ⊢
  have hn : input.length ≠ 0 := by rw [← hinput]; simp
  unfold decodeBytes at h
  simp only [bind, Except.bind] at h
  generalize hG : (input.length - input.length % 4 - if input.length % 4 = 0 then 4 else 0) = G at h
  have hparts : ∃ f g, decodeGroups 0 (input.take G) = .ok f ∧
      decodeTail input.length G (input.drop G) = .ok g ∧ out = f ++ g := by
    cases hF : decodeGroups 0 (input.take G) with
    | error e =>
      simp only [hF] at h
      repeat' split at h
      all_goals cases h
    | ok f =>
      cases hT : decodeTail input.length G (input.drop G) with
      | error e =>
        simp only [hF, hT] at h
        repeat' split at h
        all_goals cases h
      | ok g =>
        simp only [hF, hT] at h
        repeat' split at h
        all_goals cases h
        all_goals exact ⟨f, g, rfl, rfl, rfl⟩
  obtain ⟨f, g, hf, hg, rfl⟩ := hparts
  have hG' : G % 4 = 0 ∧ G ≤ input.length ∧ input.length - G ≤ 4 := by
    split at hG <;> omega
  have htake : (input.take G).length = G := by rw [List.length_take]; omega
  obtain ⟨hf, hf3⟩ := encodeBytes_of_decodeGroups hf (by omega)
  have hg := encodeBytes_of_decodeTail hg hn (by rw [List.length_drop]; omega)
  rw [encodeBytes_append f g hf3, hf, hg, List.take_append_drop]

/-- Base64 text that strict decoding accepts is the text written for what it decodes to. -/
theorem encode_of_decode {s : String} {bs : Bytes} (h : decode s = .ok bs) : encode bs = s := by
  apply Utf8.encode_injective
  rw [encode, Utf8.encode_ascii _ (encodeBytes_ascii bs)]
  exact encodeBytes_of_decodeBytes h

end Base64

end DocBatch
