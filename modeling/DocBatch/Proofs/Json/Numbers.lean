import DocBatch.Proofs.Json.Reads

/-!
# Reading back the integers written

A natural number is written in decimal, with the digits `Nat.toDigits` gives, one octet each
(`encode_repr`). The integer reader reads them back: a first `0` only for zero, then digit by
digit while the value fits 64 bits (`number_go_digits`, by induction on the digits still to
read), up to an octet that is no digit, point or exponent, which is what closes a value inside
a document (`closes_head`). Within the decoder's bounds that is the number written
(`integer_readsAt`), and a size is read back as itself (`usize_readsAt`).
-/

namespace DocBatch

namespace Json

/-- One more decimal digit, from its character. -/
def digitStep (a : Nat) (ch : Char) : Nat := a * 10 + (ch.toNat - 48)

theorem le_foldl_digitStep : ∀ (cs : List Char) (s : Nat), s ≤ cs.foldl digitStep s
  | [], _ => le_rfl
  | ch :: cs, s => by
    rw [List.foldl_cons]
    have := le_foldl_digitStep cs (digitStep s ch)
    simp only [digitStep] at this ⊢
    omega

/-- Read left to right, the decimal digits of `n` make `n`. -/
theorem foldl_toDigits (n : Nat) : (Nat.toDigits 10 n).foldl digitStep 0 = n := by
  induction n using Nat.strong_induction_on with
  | _ n ih =>
    rw [Nat.toDigits_eq_if (by decide)]
    split
    · rename_i h
      simp [digitStep, Nat.toNat_digitChar_sub_48_of_lt_ten h]
    · rename_i h
      rw [List.foldl_append, ih (n / 10) (by omega), List.foldl_cons, List.foldl_nil, digitStep,
        Nat.toNat_digitChar_sub_48_of_lt_ten (Nat.mod_lt _ (by decide))]
      omega

/-- Only zero is written with a leading `0`. -/
theorem toDigits_head (n : Nat) (hn : 0 < n) :
    ∃ ch cs, Nat.toDigits 10 n = ch :: cs ∧ ch ≠ '0' := by
  induction n using Nat.strong_induction_on with
  | _ n ih =>
    rw [Nat.toDigits_eq_if (by decide)]
    split
    · exact ⟨_, [], rfl, by simp; omega⟩
    · obtain ⟨ch, cs, h, h0⟩ := ih (n / 10) (by omega) (by omega)
      exact ⟨ch, cs ++ _, by rw [h, List.cons_append], h0⟩

/-- The octet of a character below U+0080. -/
def asciiByte (ch : Char) : UInt8 := ch.toNat.toUInt8

/-- Characters below U+0080 are written one octet each. -/
theorem encode_ofList_ascii : ∀ (cs : List Char), (∀ ch ∈ cs, ch.toNat < 0x80) →
    Utf8.encode (String.ofList cs) = cs.map asciiByte
  | [], _ => rfl
  | ch :: cs, h => by
    have hrest := encode_ofList_ascii cs fun c hc => h c (List.mem_cons_of_mem _ hc)
    rw [Utf8.encode_ofList] at hrest ⊢
    rw [List.flatMap_cons, List.map_cons, hrest, Utf8.encodeChar, if_pos (h ch List.mem_cons_self)]
    rfl

theorem mem_toDigits {n : Nat} {ch : Char} (h : ch ∈ Nat.toDigits 10 n) :
    ∃ d < 10, ch = Nat.digitChar d := by
  induction n using Nat.strong_induction_on with
  | _ n ih =>
    rw [Nat.toDigits_eq_if (by decide)] at h
    split at h
    · exact ⟨n, by omega, List.mem_singleton.1 h⟩
    · rcases List.mem_append.1 h with h | h
      · exact ih (n / 10) (by omega) h
      · exact ⟨n % 10, Nat.mod_lt _ (by decide), List.mem_singleton.1 h⟩

/-- The octet of a digit is a digit of the same value. -/
theorem asciiByte_digitChar {d : Nat} (hd : d < 10) :
    Cursor.isDigit (asciiByte d.digitChar) = true ∧ Cursor.digit (asciiByte d.digitChar) = d := by
  have hb : (asciiByte d.digitChar).toNat = 48 + d := by
    rw [asciiByte, Utf8.toNat_toUInt8] <;> rw [Nat.toNat_digitChar_of_lt_ten hd]
    omega
  simp only [Cursor.isDigit, Cursor.digit, hb]
  exact ⟨by simp; omega, by omega⟩

/-- Decimal digits are written one octet each. -/
theorem encode_repr (n : Nat) : Utf8.encode (Nat.repr n) = (Nat.toDigits 10 n).map asciiByte := by
  rw [Nat.repr_eq_ofList_toDigits]
  refine encode_ofList_ascii _ fun ch hch => ?_
  obtain ⟨d, hd, rfl⟩ := mem_toDigits hch
  rw [Nat.toNat_digitChar_of_lt_ten hd]
  omega

/-- An octet that may close a value is no digit, point or exponent. -/
theorem closes_head {rest : Bytes} (h : Closes rest) :
    rest = [] ∨ ∃ b r, rest = b :: r ∧ Cursor.isDigit b = false ∧
      b ≠ 46 ∧ b ≠ 101 ∧ b ≠ 69 := by
  rcases rest with _ | ⟨b, r⟩
  · exact .inl rfl
  · refine .inr ⟨b, r, rfl, ?_⟩
    rcases h b r rfl with rfl | rfl | rfl <;> decide

namespace Cursor

/-- The digits of a number end where a value may close: it is an integer. -/
theorem numberTail_of_closes {s : Nat} {c : Cursor} (hc : Closes c.rest) :
    numberTail true s c = .ok (.int s, c) := by
  rcases closes_head hc with h | ⟨b, r, h, -, h46, h101, h69⟩
  · simp [numberTail, peek?, h]
  · simp [numberTail, peek?, h, h46, h101, h69]

theorem digitStep_digitChar (s : Nat) {d : Nat} (hd : d < 10) :
    digitStep s d.digitChar = s * 10 + d := by
  rw [digitStep, Nat.toNat_digitChar_sub_48_of_lt_ten hd]

/-- The loop over integer digits reads them all while the value fits 64 bits. -/
theorem number_go_digits {rest : Bytes} (hrest : Closes rest) :
    ∀ (cs : List Char) (fuel s : Nat) (c : Cursor),
      (∀ ch ∈ cs, ∃ d < 10, ch = Nat.digitChar d) → cs.foldl digitStep s ≤ u64Max →
      cs.length ≤ fuel → c.rest = cs.map asciiByte ++ rest →
      ∃ c', c'.rest = rest ∧ number.go true fuel s c = numberTail true (cs.foldl digitStep s) c'
  | [], 0, s, c, _, _, _, hc => ⟨c, hc, by rw [number.go]; rfl⟩
  | [], fuel + 1, s, c, _, _, _, hc => by
    refine ⟨c, hc, ?_⟩
    rw [List.map_nil, List.nil_append] at hc
    rw [number.go]
    rcases closes_head hrest with h | ⟨b, r, h, hb, -⟩
    · simp [peek?, hc, h]
    · simp [peek?, hc, h, hb]
  | ch :: cs, 0, s, c, _, _, hlen, _ => by simp at hlen
  | ch :: cs, fuel + 1, s, c, hd, hle, hlen, hc => by
    obtain ⟨d, hd10, rfl⟩ := hd ch List.mem_cons_self
    obtain ⟨hdig, hval⟩ := asciiByte_digitChar hd10
    rw [List.foldl_cons, digitStep_digitChar s hd10] at hle ⊢
    have hfit : s * 10 + d ≤ u64Max := (le_foldl_digitStep cs _).trans hle
    rw [List.map_cons, List.cons_append] at hc
    obtain ⟨c', hc', hgo⟩ := number_go_digits hrest cs fuel (s * 10 + d) c.bump
      (fun x hx => hd x (List.mem_cons_of_mem _ hx)) hle (by simpa using hlen) (bump_rest hc)
    refine ⟨c', hc', ?_⟩
    rw [number.go]
    simp only [peek?, hc, List.head?_cons, hdig, hval, if_true, if_neg (Nat.not_lt.2 hfit)]
    exact hgo

/-- A natural number within 64 bits, written in decimal, is read back as that integer. -/
theorem number_repr {n : Nat} (hn : n ≤ u64Max) {c : Cursor} {rest : Bytes}
    (hc : c.rest = Utf8.encode (Nat.repr n) ++ rest) (hrest : Closes rest) :
    ∃ c', number true c = .ok (.int n, c') ∧ c'.rest = rest := by
  rw [encode_repr] at hc
  rcases Nat.eq_zero_or_pos n with rfl | hpos
  · have hc0 : c.rest = 48 :: rest := hc
    refine ⟨c.bump, ?_, bump_rest hc0⟩
    have htail : numberTail true 0 c.bump = .ok (.int 0, c.bump) :=
      numberTail_of_closes (by rw [bump_rest hc0]; exact hrest)
    rcases closes_head hrest with h | ⟨b, r, h, hb, -⟩
    · simp [number, hc0, peek?, bump_rest hc0, h, htail]
    · simp [number, hc0, peek?, bump_rest hc0, h, hb, htail]
  · obtain ⟨ch, cs, hdigits, h0⟩ := toDigits_head n hpos
    obtain ⟨d, hd10, rfl⟩ := mem_toDigits (hdigits ▸ List.mem_cons_self)
    obtain ⟨hdig, hval⟩ := asciiByte_digitChar hd10
    have h48 : asciiByte d.digitChar ≠ 48 := fun h => by
      rw [h] at hval
      exact h0 (Nat.digitChar_eq_zero.2 (by simpa [digit] using hval.symm))
    have hsum : cs.foldl digitStep d = n := by
      have := foldl_toDigits n
      rwa [hdigits, List.foldl_cons, digitStep_digitChar 0 hd10, Nat.zero_mul, Nat.zero_add] at this
    rw [hdigits, List.map_cons, List.cons_append] at hc
    obtain ⟨c', hc', hgo⟩ := number_go_digits hrest cs c.bump.rest.length d c.bump
      (fun x hx => mem_toDigits (hdigits ▸ List.mem_cons_of_mem _ hx)) (hsum ▸ hn)
      (by simp [bump_rest hc]) (bump_rest hc)
    refine ⟨c', ?_, hc'⟩
    simp only [number, hc, h48, if_false, hdig, if_true, hval, hgo, hsum,
      numberTail_of_closes (hc' ▸ hrest)]

end Cursor

theorem encode_render_ofNat (n : Nat) :
    Utf8.encode (Value.ofNat n).render = Utf8.encode (Nat.repr n) :=
  rfl

namespace Decoder

/-- An integer decoder reads back a natural number within its bounds and within 64 bits. -/
theorem integer_readsAt {name : String} {lo hi : Int} {n : Nat} (hlo : lo ≤ n) (hhi : n ≤ hi)
    (hn : n ≤ Cursor.u64Max) (depth : Nat) :
    (integer name lo hi).ReadsAt depth (Value.ofNat n) n := by
  intro c rest hc hrest
  rw [encode_render_ofNat] at hc
  obtain ⟨c', hnum, hc'⟩ := Cursor.number_repr hn hc hrest
  refine ⟨c', ?_, hc'⟩
  obtain ⟨b, r, hbr, hdig⟩ : ∃ b r, c.rest = b :: r ∧ Cursor.isDigit b = true := by
    rw [hc, encode_repr]
    obtain ⟨ch, cs, hdigits⟩ := List.exists_cons_of_ne_nil (@Nat.toDigits_ne_nil n 10)
    obtain ⟨d, hd10, rfl⟩ := mem_toDigits (hdigits ▸ List.mem_cons_self)
    exact ⟨_, _, by rw [hdigits, List.map_cons, List.cons_append], (asciiByte_digitChar hd10).1⟩
  have hblank : Cursor.isBlank b = false := by
    have h' : 48 ≤ b.toNat ∧ b.toNat ≤ 57 := by simpa [Cursor.isDigit] using hdig
    have hne : ∀ k : UInt8, k.toNat < 48 → b ≠ k := fun k hk hbk => by
      rw [hbk] at h'
      omega
    simp [Cursor.isBlank, hne 32 (by decide), hne 9 (by decide), hne 10 (by decide),
      hne 13 (by decide)]
  have h45 : b ≠ 45 := fun h => by simp [h, Cursor.isDigit] at hdig
  have hrange : (lo ≤ (n : Int) && (n : Int) ≤ hi) = true := by simp [hlo, hhi]
  simp only [integer, Cursor.skipBlank_of_rest hbr hblank, hbr, hdig, Bool.or_true, if_true,
    h45, if_false, decide_eq_true h45, hnum, inRange, hrange]

/-- Sizes are read back when they fit 64 bits. -/
theorem usize_readsAt {n : Nat} (hn : n ≤ Cursor.u64Max) (depth : Nat) :
    usize.ReadsAt depth (Value.ofNat n) n := by
  have hmax : Int.pow 2 64 - 1 = ((Cursor.u64Max : Nat) : Int) := by decide
  have hhi : (n : Int) ≤ Int.pow 2 64 - 1 := by
    rw [hmax]
    exact Int.ofNat_le.2 hn
  show ((integer "usize" 0 (Int.pow 2 64 - 1)).map Int.toNat).ReadsAt depth (Value.ofNat n)
    (Int.toNat n)
  exact map_readsAt (integer_readsAt (Int.natCast_nonneg n) hhi hn depth)

end Decoder

end Json

end DocBatch
