import DocBatch.Text.Base64

/-!
# Reading back what was written

Both text codings of the library read back what they write.

* UTF-8: the octets of any string decode to the string (`decode?_encode`), and the fault
  finder, which reports where octets stop being UTF-8, finds no fault in octets that decode
  (`fault?_eq_none_of_decodeChars`). Each scalar value is read back from its own octets
  whatever follows them, which is the step of both (`decodeChars_encodeChar_append`).
* Base64: strict decoding gives back every octet string that was written
  (`Base64.decode_encode`), whatever its length: the complete groups decode one by one, and
  the last group, of one to three octets padded to four symbols, passes the checks on its
  length, its padding and its unused bits.
-/

namespace DocBatch

/-- A character below the surrogates is its own code point. -/
theorem Char.toNat_ofNat_of_lt {n : Nat} (h : n < 0xD800) : (Char.ofNat n).toNat = n :=
  Char.toNat_ofNat_of_valid (Or.inl h)

namespace Utf8

theorem toNat_toUInt8 {n : Nat} (h : n < 256) : n.toUInt8.toNat = n := by
  rw [Nat.toUInt8_eq, UInt8.toNat_ofNat']
  exact Nat.mod_eq_of_lt h

/-- A scalar value lies below U+110000 and outside the surrogates. -/
theorem toNat_isValidChar (c : Char) :
    c.toNat < 0xD800 ∨ (0xDFFF < c.toNat ∧ c.toNat < 0x110000) := c.valid

/-! ## The ranges of a sequence's second octet -/

theorem and_decide_iff {lo hi n : Nat} :
    (decide (lo ≤ n) && decide (n ≤ hi)) = true ↔ lo ≤ n ∧ n ≤ hi := by
  simp

theorem secondRange_two {b : UInt8} (h₁ : 0xC2 ≤ b.toNat) (h₂ : b.toNat ≤ 0xDF) :
    secondRange b = some (0x80, 0xBF, 2) := by
  unfold secondRange
  dsimp only
  rw [if_pos (and_decide_iff.2 ⟨h₁, h₂⟩)]

theorem secondRange_three {b : UInt8} (h₁ : 0xE0 ≤ b.toNat) (h₂ : b.toNat ≤ 0xEF) :
    secondRange b = some (if b.toNat = 0xE0 then 0xA0 else 0x80,
      if b.toNat = 0xED then 0x9F else 0xBF, 3) := by
  unfold secondRange
  dsimp only
  rw [if_neg (by rw [and_decide_iff]; omega)]
  by_cases h0 : b.toNat = 0xE0
  · simp [h0]
  rw [if_neg h0]
  by_cases h1 : 0xE1 ≤ b.toNat ∧ b.toNat ≤ 0xEC
  · rw [if_pos (and_decide_iff.2 h1)]
    simp [h0, show ¬b.toNat = 0xED by omega]
  rw [if_neg (by rw [and_decide_iff]; exact h1)]
  by_cases h2 : b.toNat = 0xED
  · simp [h2]
  rw [if_neg h2, if_pos (and_decide_iff.2 (by omega))]
  simp [h0, h2]

theorem secondRange_four {b : UInt8} (h₁ : 0xF0 ≤ b.toNat) (h₂ : b.toNat ≤ 0xF4) :
    secondRange b = some (if b.toNat = 0xF0 then 0x90 else 0x80,
      if b.toNat = 0xF4 then 0x8F else 0xBF, 4) := by
  unfold secondRange
  dsimp only
  rw [if_neg (by rw [and_decide_iff]; omega), if_neg (show ¬b.toNat = 0xE0 by omega),
    if_neg (by rw [and_decide_iff]; omega), if_neg (show ¬b.toNat = 0xED by omega),
    if_neg (by rw [and_decide_iff]; omega)]
  by_cases h0 : b.toNat = 0xF0
  · simp [h0]
  rw [if_neg h0]
  by_cases h1 : 0xF1 ≤ b.toNat ∧ b.toNat ≤ 0xF3
  · rw [if_pos (and_decide_iff.2 h1)]
    simp [h0, show ¬b.toNat = 0xF4 by omega]
  rw [if_neg (by rw [and_decide_iff]; exact h1), if_pos (show b.toNat = 0xF4 by omega)]
  simp [show b.toNat = 0xF4 by omega]

/-! ## Decoding what was encoded -/

/-- Each scalar value decodes from its own octets, whatever follows them. -/
theorem decodeChars_encodeChar_append (ch : Char) (r : Bytes) :
    decodeChars (encodeChar ch ++ r) = (decodeChars r).map (ch :: ·) := by
  have hv := toNat_isValidChar ch
  suffices h : decodeChars (encodeChar ch ++ r) = (decodeChars r).map (Char.ofNat ch.toNat :: ·) by
    rwa [Char.ofNat_toNat] at h
  unfold encodeChar
  generalize ch.toNat = n at hv ⊢
  dsimp only
  split
  · rename_i h1
    have e0 := toNat_toUInt8 (show n < 256 by omega)
    rw [List.singleton_append, decodeChars.eq_def]
    dsimp only
    rw [e0, if_pos h1]
  split
  · rename_i h1 h2
    have e0 := toNat_toUInt8 (show 0xC0 + n / 64 < 256 by omega)
    have e1 := toNat_toUInt8 (show 0x80 + n % 64 < 256 by omega)
    have hval : (0xC0 + n / 64) % 32 * 64 + low6 (0x80 + n % 64).toUInt8 = n := by
      simp only [low6, e1]
      omega
    rw [List.cons_append, List.singleton_append,
      decodeChars.eq_2 _ _ _ _ _ (secondRange_two (by omega) (by omega)), e0, if_neg (by omega),
      if_pos (by simp only [e1, Bool.and_eq_true, decide_eq_true_eq]; omega), hval]
  split
  · rename_i h1 h2 h3
    have e0 := toNat_toUInt8 (show 0xE0 + n / 4096 < 256 by omega)
    have e1 := toNat_toUInt8 (show 0x80 + n / 64 % 64 < 256 by omega)
    have e2 := toNat_toUInt8 (show 0x80 + n % 64 < 256 by omega)
    have hs := secondRange_three (b := (0xE0 + n / 4096).toUInt8) (by omega) (by omega)
    have hval : (0xE0 + n / 4096) % 16 * 4096 + low6 (0x80 + n / 64 % 64).toUInt8 * 64 +
        low6 (0x80 + n % 64).toUInt8 = n := by
      simp only [low6, e1, e2]
      omega
    rw [List.cons_append, List.cons_append, List.singleton_append,
      decodeChars.eq_3 _ _ _ _ _ _ hs, e0, if_neg (by omega), if_pos, hval]
    simp only [e1, e2, isCont, Bool.and_eq_true, decide_eq_true_eq]
    split <;> split <;> omega
  · rename_i h1 h2 h3
    have e0 := toNat_toUInt8 (show 0xF0 + n / 262144 < 256 by omega)
    have e1 := toNat_toUInt8 (show 0x80 + n / 4096 % 64 < 256 by omega)
    have e2 := toNat_toUInt8 (show 0x80 + n / 64 % 64 < 256 by omega)
    have e3 := toNat_toUInt8 (show 0x80 + n % 64 < 256 by omega)
    have hs := secondRange_four (b := (0xF0 + n / 262144).toUInt8) (by omega) (by omega)
    have hval : (0xF0 + n / 262144) % 8 * 262144 + low6 (0x80 + n / 4096 % 64).toUInt8 * 4096 +
        low6 (0x80 + n / 64 % 64).toUInt8 * 64 + low6 (0x80 + n % 64).toUInt8 = n := by
      simp only [low6, e1, e2, e3]
      omega
    rw [List.cons_append, List.cons_append, List.cons_append, List.singleton_append,
      decodeChars.eq_4 _ _ _ _ _ _ _ hs, e0, if_neg (by omega), if_pos, hval]
    simp only [e1, e2, e3, isCont, Bool.and_eq_true, decide_eq_true_eq]
    split <;> split <;> omega

theorem decodeChars_flatMap (cs : List Char) : decodeChars (cs.flatMap encodeChar) = some cs := by
  induction cs with
  | nil => rw [List.flatMap_nil, decodeChars]
  | cons ch cs ih => rw [List.flatMap_cons, decodeChars_encodeChar_append, ih, Option.map_some]

/-- The octets of a string decode to the string. -/
theorem decode?_encode (s : String) : decode? (encode s) = some s := by
  rw [decode?, encode, decodeChars_flatMap, Option.map_some, String.ofList_toList]

/-! ## The fault finder agrees with the decoder -/

theorem fitting_zero (lo hi : Nat) (bs : Bytes) : fitting lo hi 0 bs = (0, false) := by
  rw [fitting]

theorem fitting_succ {lo hi k : Nat} {b : UInt8} (r : Bytes)
    (h : (decide (lo ≤ b.toNat) && decide (b.toNat ≤ hi)) = true) :
    fitting lo hi (k + 1) (b :: r) = ((fitting 0x80 0xBF k r).1 + 1, (fitting 0x80 0xBF k r).2) := by
  rw [fitting, if_pos h]

/-- Octets the decoder reads are octets in which the fault finder finds no fault. -/
theorem fault?_eq_none_of_decodeChars {bs : Bytes} {cs : List Char}
    (h : decodeChars bs = some cs) (at_ : Nat) : fault? at_ bs = none := by
  fun_induction decodeChars bs generalizing cs at_ with
  | case1 => rw [fault?]
  | case2 b0 rest hb0 ih =>
    obtain ⟨cs', hrest, -⟩ := Option.map_eq_some_iff.1 h
    rw [fault?, if_pos hb0, ih hrest]
  | case3 b0 hb0 lo hi b1 r hs hb ih =>
    obtain ⟨cs', hrest, -⟩ := Option.map_eq_some_iff.1 h
    rw [fault?, if_neg hb0, hs]
    simp only [fitting_succ r hb, fitting_zero]
    simp [ih hrest]
  | case5 b0 hb0 lo hi b1 b2 r hs hb ih =>
    obtain ⟨cs', hrest, -⟩ := Option.map_eq_some_iff.1 h
    rw [Bool.and_eq_true] at hb
    rw [fault?, if_neg hb0, hs]
    simp only [fitting_succ _ hb.1, fitting_succ r hb.2, fitting_zero]
    simp [ih hrest]
  | case7 b0 hb0 lo hi b1 b2 b3 r hs hb ih =>
    obtain ⟨cs', hrest, -⟩ := Option.map_eq_some_iff.1 h
    rw [Bool.and_eq_true, Bool.and_eq_true] at hb
    rw [fault?, if_neg hb0, hs]
    simp only [fitting_succ _ hb.1.1, fitting_succ _ hb.1.2, fitting_succ r hb.2, fitting_zero]
    simp [ih hrest]
  | case4 | case6 | case8 | case9 => cases h

theorem fault?_flatMap (at_ : Nat) (cs : List Char) : fault? at_ (cs.flatMap encodeChar) = none :=
  fault?_eq_none_of_decodeChars (decodeChars_flatMap cs) at_

/-- An octet below 0x80 read as a character is written back as itself. -/
theorem encodeChar_ascii {b : UInt8} (h : b.toNat < 0x80) : encodeChar (Char.ofNat b.toNat) = [b] := by
  rw [encodeChar, Char.toNat_ofNat_of_lt (by omega), if_pos h, Nat.toUInt8_eq, UInt8.ofNat_toNat]

/-- Octets below 0x80 read as characters are their own UTF-8. -/
theorem encode_ascii (bs : Bytes) (h : ∀ b ∈ bs, b.toNat < 0x80) :
    encode (String.ofList (bs.map fun b => Char.ofNat b.toNat)) = bs := by
  induction bs with
  | nil => rfl
  | cons b bs ih =>
    have hb := h b List.mem_cons_self
    have hrest := ih fun c hc => h c (List.mem_cons_of_mem _ hc)
    simp only [encode, String.toList_ofList, List.map_cons, List.flatMap_cons] at hrest ⊢
    rw [encodeChar_ascii hb, hrest, List.singleton_append]

end Utf8

namespace Base64

theorem sextet?_symbol : ∀ v, v < 64 → sextet? (symbol v) = some v := by decide

theorem symbol_ascii : ∀ v, v < 64 → (symbol v).toNat < 0x80 ∧ symbol v ≠ pad := by decide

theorem toUInt8_eq {n : Nat} {b : UInt8} (h : n = b.toNat) : n.toUInt8 = b := by
  rw [h, Nat.toUInt8_eq, UInt8.ofNat_toNat]

theorem ofNat_eq {n : Nat} {b : UInt8} (h : n % 256 = b.toNat) : UInt8.ofNat n = b := by
  rw [← UInt8.toNat_inj, UInt8.toNat_ofNat']
  exact h

/-- The four sextets of a group put back together. -/
theorem sextets_recombine (n : Nat) :
    n / 262144 * 262144 + n / 4096 % 64 * 4096 + n / 64 % 64 * 64 + n % 64 = n := by
  omega

/-! ## Complete groups -/

/-- Complete groups decode to the octets they encode, at any offset. -/
theorem decodeGroups_encodeBytes (off : Nat) (bs : Bytes) (h : bs.length % 3 = 0) :
    decodeGroups off (encodeBytes bs) = .ok bs := by
  induction bs using encodeBytes.induct generalizing off with
  | case1 => rfl
  | case2 a => simp at h
  | case3 a b => simp at h
  | case4 a b c rest ih =>
    have ha := a.toNat_lt
    have hb := b.toNat_lt
    have hc := c.toNat_lt
    simp only [encodeBytes, decodeGroups]
    rw [sextet?_symbol _ (by omega), sextet?_symbol _ (by omega), sextet?_symbol _ (by omega),
      sextet?_symbol _ (by omega)]
    simp only [Option.elim, List.length_cons] at h ⊢
    rw [ih (off + 4) (by omega)]
    simp only [bind, Except.bind, pure, Except.pure, sextets_recombine, Except.ok.injEq,
      List.cons.injEq]
    refine ⟨toUInt8_eq ?_, toUInt8_eq ?_, toUInt8_eq ?_, trivial⟩ <;> omega

/-- Whole groups are written on their own: what follows them is written after. -/
theorem encodeBytes_append (front rest : Bytes) (h : front.length % 3 = 0) :
    encodeBytes (front ++ rest) = encodeBytes front ++ encodeBytes rest := by
  induction front using encodeBytes.induct with
  | case1 => rfl
  | case2 a => simp at h
  | case3 a b => simp at h
  | case4 a b c front ih =>
    simp only [List.length_cons] at h
    simp only [List.cons_append, encodeBytes, ih (by omega)]

theorem length_encodeBytes (bs : Bytes) : (encodeBytes bs).length = 4 * ((bs.length + 2) / 3) := by
  induction bs using encodeBytes.induct with
  | case1 => rfl
  | case2 a => simp [encodeBytes]
  | case3 a b => simp [encodeBytes]
  | case4 a b c rest ih =>
    simp only [encodeBytes, List.length_cons, ih]
    omega

/-! ## The last group -/

/-- Symbols of the last group are read one by one while no padding was met. -/
theorem readTail_symbols (off : Nat) (rest : Bytes) : ∀ (vs : List Nat) (i : Nat) (t : Tail),
    (∀ v ∈ vs, v < 64) → t.padding = 0 →
    ∃ t', readTail off i t (vs.map symbol ++ rest) = readTail off (i + vs.length) t' rest ∧
      t'.sextets = t.sextets ++ vs ∧ t'.padding = 0
  | [], i, t, _, ht => ⟨t, rfl, by simp, ht⟩
  | v :: vs, i, t, hv, ht => by
    have hv₀ := hv v List.mem_cons_self
    obtain ⟨t', h, hs, hp⟩ := readTail_symbols off rest vs (i + 1)
      { t with sextets := t.sextets ++ [v], lastSymbol := symbol v }
      (fun w hw => hv w (List.mem_cons_of_mem _ hw)) ht
    refine ⟨t', ?_, by simp [hs], hp⟩
    rw [List.map_cons, List.cons_append, readTail, if_neg (symbol_ascii v hv₀).2, if_neg (by omega),
      sextet?_symbol v hv₀]
    dsimp only
    rw [h, List.length_cons, Nat.add_assoc, Nat.add_comm 1]

/-- Padding past the second symbol is counted. -/
theorem readTail_pads (off : Nat) : ∀ (p i : Nat) (t : Tail), 2 ≤ i →
    ∃ t', readTail off i t (List.replicate p pad) = .ok t' ∧ t'.sextets = t.sextets ∧
      t'.padding = t.padding + p
  | 0, i, t, _ => ⟨t, rfl, rfl, rfl⟩
  | p + 1, i, t, hi => by
    let t₀ := if t.padding = 0 then { t with firstPad := i } else t
    have h₀ : t₀.sextets = t.sextets ∧ t₀.padding = t.padding := by
      simp only [t₀]
      split <;> exact ⟨rfl, rfl⟩
    obtain ⟨t', h, hs, hp⟩ := readTail_pads off p (i + 1) { t₀ with padding := t₀.padding + 1 } (by omega)
    refine ⟨t', ?_, hs.trans h₀.1, ?_⟩
    · rw [List.replicate_succ, readTail, if_pos rfl, if_neg (by omega)]
      exact h
    · rw [hp]
      dsimp only
      rw [h₀.2]
      omega

/-- A last group of two to four symbols, padded to four, reads as its sextets. -/
theorem readTail_group (off : Nat) (vs : List Nat) (hv : ∀ v ∈ vs, v < 64) (hk : 2 ≤ vs.length) :
    ∃ t, readTail off 0 {} (vs.map symbol ++ List.replicate (4 - vs.length) pad) = .ok t ∧
      t.sextets = vs ∧ t.padding = 4 - vs.length := by
  obtain ⟨t₁, h₁, hs₁, hp₁⟩ := readTail_symbols off (List.replicate (4 - vs.length) pad) vs 0 {} hv rfl
  obtain ⟨t₂, h₂, hs₂, hp₂⟩ := readTail_pads off (4 - vs.length) (0 + vs.length) t₁ (by omega)
  refine ⟨t₂, h₁.trans h₂, ?_, ?_⟩
  · rw [hs₂, hs₁]
    rfl
  · rw [hp₂, hp₁, Nat.zero_add]

theorem decodeTail_one (whole off : Nat) (a : UInt8) :
    decodeTail whole off (encodeBytes [a]) = .ok [a] := by
  have ha := a.toNat_lt
  let vs := [a.toNat * 65536 / 262144, a.toNat * 65536 / 4096 % 64]
  obtain ⟨t, ht, hs, hp⟩ := readTail_group off vs
    (by intro v hv; simp only [vs, List.mem_cons, List.not_mem_nil, or_false] at hv; omega)
    (by simp [vs])
  have he : encodeBytes [a] = vs.map symbol ++ List.replicate (4 - vs.length) pad := rfl
  rw [decodeTail, he, ht]
  -- the checks and the octets, computed from the sextets; no `Nat.add_zero` here, which would
  -- leave the kernel unfolding products by the large powers of two
  simp only [bind, Except.bind, hs, hp, vs, List.length_cons, List.length_nil, Nat.reduceAdd,
    Nat.reduceSub, List.reduceReplicate, List.cons_append, List.nil_append, List.getD_cons_zero,
    List.getD_cons_succ, Nat.pow_eq, Nat.reducePow, Nat.reduceMul, Nat.reduceDiv, Nat.lt_irrefl,
    decide_false, Bool.and_false, Bool.false_eq_true, ↓reduceIte, Nat.mod_self, bne_self_eq_false,
    bne_iff_ne, ne_eq, ite_not, Nat.toUInt8_eq, List.range_succ, List.range_zero, List.map_cons,
    List.map_nil]
  rw [if_pos (by omega)]
  simp only [pure, Except.pure, Except.ok.injEq, List.cons.injEq, and_true]
  exact ofNat_eq (by omega)

theorem decodeTail_two (whole off : Nat) (a b : UInt8) :
    decodeTail whole off (encodeBytes [a, b]) = .ok [a, b] := by
  have ha := a.toNat_lt
  have hb := b.toNat_lt
  let n := a.toNat * 65536 + b.toNat * 256
  let vs := [n / 262144, n / 4096 % 64, n / 64 % 64]
  obtain ⟨t, ht, hs, hp⟩ := readTail_group off vs
    (by intro v hv; simp only [vs, List.mem_cons, List.not_mem_nil, or_false] at hv; omega)
    (by simp [vs])
  have he : encodeBytes [a, b] = vs.map symbol ++ List.replicate (4 - vs.length) pad := rfl
  rw [decodeTail, he, ht]
  simp only [bind, Except.bind, hs, hp, vs, List.length_cons, List.length_nil, Nat.reduceAdd,
    Nat.reduceSub, List.reduceReplicate, List.cons_append, List.nil_append, List.getD_cons_zero,
    List.getD_cons_succ, Nat.pow_eq, Nat.reducePow, Nat.reduceMul, Nat.reduceDiv, Nat.reduceLT,
    decide_false, Bool.and_false, Bool.false_eq_true, ↓reduceIte, Nat.mod_self, bne_self_eq_false,
    bne_iff_ne, ne_eq, ite_not, Nat.toUInt8_eq, List.range_succ, List.range_zero, List.map_cons,
    List.map_nil]
  have hn : n = a.toNat * 65536 + b.toNat * 256 := rfl
  rw [if_pos (by omega)]
  simp only [pure, Except.pure, Except.ok.injEq, List.cons.injEq, and_true]
  exact ⟨ofNat_eq (by omega), ofNat_eq (by omega)⟩

theorem decodeTail_three (whole off : Nat) (a b c : UInt8) :
    decodeTail whole off (encodeBytes [a, b, c]) = .ok [a, b, c] := by
  have ha := a.toNat_lt
  have hb := b.toNat_lt
  have hc := c.toNat_lt
  let n := a.toNat * 65536 + b.toNat * 256 + c.toNat
  let vs := [n / 262144, n / 4096 % 64, n / 64 % 64, n % 64]
  obtain ⟨t, ht, hs, hp⟩ := readTail_group off vs
    (by intro v hv; simp only [vs, List.mem_cons, List.not_mem_nil, or_false] at hv; omega)
    (by simp [vs])
  have he : encodeBytes [a, b, c] = vs.map symbol ++ List.replicate (4 - vs.length) pad := rfl
  rw [decodeTail, he, ht]
  simp only [bind, Except.bind, hs, hp, vs, List.length_cons, List.length_nil, Nat.reduceAdd,
    Nat.reduceSub, List.reduceReplicate, List.cons_append, List.nil_append, List.getD_cons_zero,
    List.getD_cons_succ, Nat.pow_eq, Nat.reducePow, Nat.reduceMul, Nat.reduceDiv, Nat.reduceLT,
    decide_false, Bool.and_false, Bool.false_eq_true, ↓reduceIte, Nat.mod_self, bne_self_eq_false,
    bne_iff_ne, ne_eq, ite_not, Nat.toUInt8_eq, List.range_succ, List.range_zero, List.map_cons,
    List.map_nil]
  have hn : n = a.toNat * 65536 + b.toNat * 256 + c.toNat := rfl
  rw [if_pos (by omega)]
  simp only [pure, Except.pure, Except.ok.injEq, List.cons.injEq, and_true]
  exact ⟨ofNat_eq (by omega), ofNat_eq (by omega), ofNat_eq (by omega)⟩

theorem decodeTail_encodeBytes (whole off : Nat) :
    ∀ last : Bytes, 0 < last.length → last.length ≤ 3 →
      decodeTail whole off (encodeBytes last) = .ok last
  | [a], _, _ => decodeTail_one whole off a
  | [a, b], _, _ => decodeTail_two whole off a b
  | [a, b, c], _, _ => decodeTail_three whole off a b c
  | [], h, _ => absurd h (by simp)
  | _ :: _ :: _ :: _ :: _, _, h => absurd h (by simp)

/-! ## Whole texts -/

/-- Strict decoding reads back every octet string that was written. -/
theorem decodeBytes_encodeBytes (bs : Bytes) : decodeBytes (encodeBytes bs) = .ok bs := by
  cases bs with
  | nil => rfl
  | cons b rest =>
    obtain ⟨q, hq⟩ : ∃ q, q = rest.length / 3 := ⟨_, rfl⟩
    have hsplit := (List.take_append_drop (3 * q) (b :: rest)).symm
    have hfront : (List.take (3 * q) (b :: rest)).length = 3 * q := by
      simp only [List.length_take, List.length_cons]
      omega
    have hlast : (List.drop (3 * q) (b :: rest)).length = rest.length + 1 - 3 * q := by
      simp only [List.length_drop, List.length_cons]
    generalize List.take (3 * q) (b :: rest) = front at hsplit hfront
    generalize List.drop (3 * q) (b :: rest) = last at hsplit hlast
    rw [hsplit, encodeBytes_append front last (by omega)]
    have hgroups : (encodeBytes front).length = 4 * q := by
      rw [length_encodeBytes, hfront]
      omega
    have hlen : (encodeBytes front ++ encodeBytes last).length = 4 * q + 4 := by
      rw [List.length_append, hgroups, length_encodeBytes, hlast]
      omega
    have hgroup : 4 * q + 4 - (4 * q + 4) % 4 - (if (4 * q + 4) % 4 = 0 then 4 else 0) = 4 * q := by
      simp only [show (4 * q + 4) % 4 = 0 by omega, if_true]
      omega
    simp only [decodeBytes, hlen, hgroup]
    rw [if_neg (by omega), List.take_left' hgroups, List.drop_left' hgroups,
      decodeGroups_encodeBytes 0 front (by omega),
      decodeTail_encodeBytes _ _ last (by omega) (by omega)]
    rfl

theorem encodeBytes_ascii (bs : Bytes) : ∀ b ∈ encodeBytes bs, b.toNat < 0x80 := by
  have hpad : pad.toNat < 0x80 := by decide
  induction bs using encodeBytes.induct with
  | case1 => simp [encodeBytes]
  | case2 a =>
    have ha := a.toNat_lt
    simp only [encodeBytes, List.mem_cons, List.not_mem_nil, or_false]
    rintro b (rfl | rfl | rfl | rfl) <;> first | exact hpad | exact (symbol_ascii _ (by omega)).1
  | case3 a b =>
    have ha := a.toNat_lt
    have hb := b.toNat_lt
    simp only [encodeBytes, List.mem_cons, List.not_mem_nil, or_false]
    rintro c (rfl | rfl | rfl | rfl) <;> first | exact hpad | exact (symbol_ascii _ (by omega)).1
  | case4 a b c rest ih =>
    have ha := a.toNat_lt
    have hb := b.toNat_lt
    have hc := c.toNat_lt
    simp only [encodeBytes, List.mem_cons]
    rintro d (rfl | rfl | rfl | rfl | hd)
    all_goals first | exact ih d hd | exact (symbol_ascii _ (by omega)).1

/-- Strict decoding reads back every text that was written, whatever the number of octets. -/
theorem decode_encode (bs : Bytes) : decode (encode bs) = .ok bs := by
  rw [decode, encode, Utf8.encode_ascii _ (encodeBytes_ascii bs), decodeBytes_encodeBytes]

/-- The empty octet string is written as the empty text. -/
example : encode [] = "" := rfl

end Base64

end DocBatch
