import DocBatch.Proofs.Text.RoundTrip
import DocBatch.Json.Decoder

/-!
# Reading back the JSON text of a value

What `Value.render` writes, the cursor's readers read back, whatever follows the text. Every
statement here has the same shape: the cursor's rest is the written octets followed by an
arbitrary `rest`, and the reader leaves exactly `rest`.

The main statement is `Cursor.string_json`: a string literal gives back the string it was
written from. A character is written inside a literal in one of two ways
(`Cursor.jsonBytes_cases`): as its own UTF-8 octets, none of which is a quote, a backslash or a
control octet, or as a backslash and an escape that decodes to those octets. The reader keeps
the octets written as they are in a run, checked as UTF-8 where the run ends; the induction on
the characters (`stringOctets_go_json`) carries that the run is the octets of the characters
read since the last escape, which are UTF-8.

The last part gives the octets of arrays and objects: brackets around items, or members, that
are each written after a comma but the first.
-/

namespace DocBatch

namespace Utf8

@[simp] theorem encode_append (s t : String) : encode (s ++ t) = encode s ++ encode t := by
  simp only [encode, String.toList_append, List.flatMap_append]

theorem encode_ofList (cs : List Char) : encode (String.ofList cs) = cs.flatMap encodeChar := by
  rw [encode, String.toList_ofList]

/-- The octets of a scalar value past U+007F are all at least 0x80. -/
theorem encodeChar_high {ch : Char} (h : 0x80 ≤ ch.toNat) : ∀ b ∈ encodeChar ch, 0x80 ≤ b.toNat := by
  have hv := toNat_isValidChar ch
  unfold encodeChar
  generalize ch.toNat = n at hv h ⊢
  dsimp only
  rw [if_neg (by omega)]
  split
  · simp only [List.mem_cons, List.not_mem_nil, or_false]
    rintro b (rfl | rfl) <;> rw [toNat_toUInt8 (by omega)] <;> omega
  split
  · simp only [List.mem_cons, List.not_mem_nil, or_false]
    rintro b (rfl | rfl | rfl) <;> rw [toNat_toUInt8 (by omega)] <;> omega
  · simp only [List.mem_cons, List.not_mem_nil, or_false]
    rintro b (rfl | rfl | rfl | rfl) <;> rw [toNat_toUInt8 (by omega)] <;> omega

/-- A scalar value below U+0080 is one octet, its own value. -/
theorem encodeChar_low {ch : Char} (h : ch.toNat < 0x80) :
    ∃ b, encodeChar ch = [b] ∧ b.toNat = ch.toNat :=
  ⟨ch.toNat.toUInt8, by rw [encodeChar, if_pos h], toNat_toUInt8 (by omega)⟩

end Utf8

namespace Quoted

/-- The octets a character is written as inside a JSON string literal. -/
def jsonBytes (c : Char) : Bytes := (jsonChar c).flatMap Utf8.encodeChar

theorem encode_json (s : String) : Utf8.encode (json s) = 34 :: s.toList.flatMap jsonBytes ++ [34] := by
  rw [json, Utf8.encode_ofList, List.flatMap_append, List.flatMap_cons, List.flatMap_assoc]
  rfl

end Quoted

namespace Json

namespace Cursor

open Quoted

/-! ## Single octets and blanks -/

theorem bump_rest {c : Cursor} {b : UInt8} {r : Bytes} (h : c.rest = b :: r) : c.bump.rest = r := by
  simp only [bump, h]
  split <;> rfl

theorem skipBlank_of_rest {c : Cursor} {b : UInt8} {r : Bytes} (h : c.rest = b :: r)
    (hb : isBlank b = false) : c.skipBlank = c := by
  rw [skipBlank, h, List.length_cons, skipBlank.go, h]
  simp only [hb, Bool.false_eq_true, if_false]

theorem skipBlank_of_nil {c : Cursor} (h : c.rest = []) : c.skipBlank = c := by
  rw [skipBlank, h, List.length_nil, skipBlank.go]

/-! ## String literals -/

/-- An octet written as it is inside a string literal: no quote, no backslash, no control. -/
def Plain (b : UInt8) : Prop := b ≠ 34 ∧ b ≠ 92 ∧ 0x20 ≤ b.toNat

theorem plain_of_toNat {b : UInt8} (h20 : 0x20 ≤ b.toNat) (h34 : b.toNat ≠ 34)
    (h92 : b.toNat ≠ 92) : Plain b :=
  ⟨fun e => h34 (by rw [e]; rfl), fun e => h92 (by rw [e]; rfl), h20⟩

/-- A run of plain octets is taken one by one into the current run. -/
theorem stringOctets_go_plain (acc : Bytes) (start : Cursor) (r : Bytes) :
    ∀ (bs : Bytes) (fuel : Nat) (run : Bytes) (c : Cursor), (∀ b ∈ bs, Plain b) → c.rest = bs ++ r →
      ∃ c', c'.rest = r ∧ stringOctets.go (fuel + bs.length) acc start run c =
        stringOctets.go fuel acc start (bs.reverse ++ run) c'
  | [], fuel, run, c, _, h => ⟨c, h, rfl⟩
  | b :: bs, fuel, run, c, hp, h => by
    obtain ⟨h34, h92, h20⟩ := hp b List.mem_cons_self
    rw [List.cons_append] at h
    obtain ⟨c', hc', heq⟩ := stringOctets_go_plain acc start r bs fuel (b :: run) c.bump
      (fun x hx => hp x (List.mem_cons_of_mem _ hx)) (bump_rest h)
    refine ⟨c', hc', ?_⟩
    rw [List.length_cons, ← Nat.add_assoc, stringOctets.go, h]
    dsimp only
    rw [if_neg h34, if_neg h92, if_neg (by omega), heq, List.reverse_cons, List.append_assoc,
      List.singleton_append]

/-- Each hexadecimal digit written is one octet that reads back as the digit. -/
theorem hexDigits_read : ∀ d < 16, (Utf8.encodeChar (hexDigit d)).map hexValue? = [some d] := by
  decide

theorem hexDigit_byte {d : Nat} (hd : d < 16) :
    ∃ b, Utf8.encodeChar (hexDigit d) = [b] ∧ hexValue? b = some d := by
  have h := hexDigits_read d hd
  cases hx : Utf8.encodeChar (hexDigit d) with
  | nil => simp [hx] at h
  | cons b bs =>
    cases bs with
    | nil => exact ⟨b, rfl, by simpa [hx] using h⟩
    | cons => simp [hx] at h

/-- The escape a control character is written with, `u` and four hexadecimal digits after the
backslash, reads back as the character. -/
theorem escape_control {ch : Char} (hch : ch.toNat < 0x20) (c : Cursor) (r : Bytes)
    (h : c.rest = ([117, 48, 48] ++ Utf8.encodeChar (hexDigit (ch.toNat / 16)) ++
      Utf8.encodeChar (hexDigit (ch.toNat % 16))) ++ r) :
    ∃ c', escape c = .ok (Utf8.encodeChar ch, c') ∧ c'.rest = r := by
  obtain ⟨x, hx, vx⟩ := hexDigit_byte (d := ch.toNat / 16) (by omega)
  obtain ⟨y, hy, vy⟩ := hexDigit_byte (d := ch.toNat % 16) (by omega)
  rw [hx, hy] at h
  simp only [List.cons_append, List.nil_append] at h
  have h1 := bump_rest h
  have h2 := bump_rest h1
  have h3 := bump_rest h2
  have h4 := bump_rest h3
  refine ⟨c.bump.bump.bump.bump.bump, ?_, bump_rest h4⟩
  have hval : 0 * 4096 + 0 * 256 + ch.toNat / 16 * 16 + ch.toNat % 16 = ch.toNat := by omega
  have hhex : hexEscape c.bump = .ok (ch.toNat, c.bump.bump.bump.bump.bump) := by
    have h48 : hexValue? 48 = some 0 := rfl
    rw [hexEscape, h1]
    simp only [h48, vx, vy, hval]
  have hlow : ¬ (56320 ≤ ch.toNat ∧ ch.toNat ≤ 57343) := by omega
  have h117 : (117 : UInt8).toNat = 117 := rfl
  rw [escape, h]
  simp only [h117, unicodeEscape, hhex, bind, Except.bind, Bool.and_eq_true, decide_eq_true_eq,
    hlow, if_false, Bool.or_eq_true, show ch.toNat < 55296 by omega, true_or, if_true]
  rw [codePoint, Char.ofNat_toNat]
  rfl

/-- How a character is written inside a string literal: as its own octets, all of them plain,
or as a backslash and an escape that reads back as the character's octets. -/
theorem jsonBytes_cases (ch : Char) :
    (jsonBytes ch = Utf8.encodeChar ch ∧ ∀ b ∈ Utf8.encodeChar ch, Plain b) ∨
      ∃ e, jsonBytes ch = 92 :: e ∧ ∀ (c : Cursor) (r : Bytes), c.rest = e ++ r →
        ∃ c', escape c = .ok (Utf8.encodeChar ch, c') ∧ c'.rest = r := by
  unfold jsonBytes jsonChar
  split
  case h_8 _ hquote hslash _ _ _ _ _ =>
    split
    case isTrue hc =>
      refine .inr ⟨[117, 48, 48] ++ Utf8.encodeChar (hexDigit (ch.toNat / 16)) ++
        Utf8.encodeChar (hexDigit (ch.toNat % 16)), ?_, escape_control hc⟩
      simp only [List.flatMap_cons, List.flatMap_nil, List.append_nil, List.append_assoc]
      rfl
    case isFalse hc =>
      refine .inl ⟨List.flatMap_singleton _ _, ?_⟩
      have hq : ch.toNat ≠ 34 := fun e => hquote (by rw [← Char.ofNat_toNat ch, e])
      have hs : ch.toNat ≠ 92 := fun e => hslash (by rw [← Char.ofNat_toNat ch, e])
      by_cases hlow : ch.toNat < 0x80
      · obtain ⟨b, hb, hbv⟩ := Utf8.encodeChar_low hlow
        rw [hb, List.forall_mem_singleton]
        exact plain_of_toNat (by omega) (by omega) (by omega)
      · exact fun b hb => have := Utf8.encodeChar_high (by omega) b hb
          plain_of_toNat (by omega) (by omega) (by omega)
  all_goals
    refine .inr ⟨_, rfl, fun c r h => ⟨c.bump, ?_, bump_rest h⟩⟩
    rw [escape, h]
    rfl

theorem runFault?_flatMap (start : Cursor) (cs : List Char) :
    runFault? start (cs.flatMap Utf8.encodeChar) = none := by
  rw [runFault?, Utf8.fault?_flatMap, Option.map_none]

/-- The characters of a string literal are read up to its closing quote, each as its own
octets, whether it was written as it is or escaped. The octets of the run being read are those
of the characters `P` read since the last escape, which are UTF-8. -/
theorem stringOctets_go_json (rest : Bytes) :
    ∀ (cs : List Char) (fuel : Nat) (acc : Bytes) (start : Cursor) (P : List Char) (c : Cursor),
      c.rest = cs.flatMap jsonBytes ++ 34 :: rest → (cs.flatMap jsonBytes).length < fuel →
      ∃ c', stringOctets.go fuel acc start (P.flatMap Utf8.encodeChar).reverse c =
          .ok (acc.reverse ++ P.flatMap Utf8.encodeChar ++ cs.flatMap Utf8.encodeChar, c') ∧
        c'.rest = rest
  | [], fuel + 1, acc, start, P, c, h, _ => by
    refine ⟨c.bump, ?_, bump_rest h⟩
    rw [stringOctets.go, h]
    simp only [List.flatMap_nil, List.nil_append, if_true, List.reverse_reverse, runFault?_flatMap,
      List.reverse_append, List.append_nil]
  | ch :: cs, fuel, acc, start, P, c, h, hfuel => by
    rw [List.flatMap_cons, List.append_assoc] at h
    rw [List.flatMap_cons, List.length_append] at hfuel
    rcases jsonBytes_cases ch with ⟨hj, hplain⟩ | ⟨e, hj, hesc⟩
    · rw [hj] at h hfuel
      obtain ⟨c', hc', hgo⟩ := stringOctets_go_plain acc start _ _ (fuel - (Utf8.encodeChar ch).length)
        (P.flatMap Utf8.encodeChar).reverse c hplain h
      obtain ⟨c'', hgo', hc''⟩ := stringOctets_go_json rest cs (fuel - (Utf8.encodeChar ch).length) acc
        start (P ++ [ch]) c' hc' (by omega)
      have hrun : (Utf8.encodeChar ch).reverse ++ (P.flatMap Utf8.encodeChar).reverse =
          ((P ++ [ch]).flatMap Utf8.encodeChar).reverse := by
        simp
      refine ⟨c'', ?_, hc''⟩
      rw [show fuel = fuel - (Utf8.encodeChar ch).length + (Utf8.encodeChar ch).length by omega, hgo,
        hrun, hgo']
      simp
    · rw [hj, List.cons_append] at h
      rw [hj, List.length_cons] at hfuel
      obtain ⟨c₁, hesc₁, hc₁⟩ := hesc c.bump _ (bump_rest h)
      obtain ⟨c'', hgo, hc''⟩ := stringOctets_go_json rest cs (fuel - 1)
        ((Utf8.encodeChar ch).reverse ++ (P.flatMap Utf8.encodeChar).reverse ++ acc) c₁ [] c₁ hc₁
        (by omega)
      refine ⟨c'', ?_, hc''⟩
      obtain ⟨f, rfl⟩ : ∃ f, fuel = f + 1 := ⟨fuel - 1, by omega⟩
      rw [stringOctets.go, h]
      dsimp only
      rw [if_neg (by decide), if_pos rfl, List.reverse_reverse, runFault?_flatMap]
      dsimp only
      rw [hesc₁]
      dsimp only
      simp only [List.flatMap_nil, List.reverse_nil, Nat.add_sub_cancel] at hgo
      rw [hgo]
      simp

/-- A string literal, its opening quote taken, is read back as the string it was written
from, the cursor left after its closing quote. -/
theorem string_json (s : String) (c : Cursor) (rest : Bytes)
    (h : c.rest = s.toList.flatMap jsonBytes ++ 34 :: rest) :
    ∃ c', c.string = .ok (s, c') ∧ c'.rest = rest := by
  have hlen : (s.toList.flatMap jsonBytes).length < c.rest.length := by
    rw [h, List.length_append, List.length_cons]
    omega
  obtain ⟨c', hgo, hc'⟩ := stringOctets_go_json rest s.toList c.rest.length [] c [] c h hlen
  have hoctets : c.stringOctets = .ok (Utf8.encode s, c') := by
    simp only [List.flatMap_nil, List.reverse_nil, List.nil_append] at hgo
    rw [stringOctets, hgo, Utf8.encode]
  refine ⟨c', ?_, hc'⟩
  simp only [string, hoctets, bind, Except.bind, Utf8.decode?_encode]
  rfl

end Cursor

/-! ## The octets of a rendered value -/

/-- The octets of a member of an object as it is written: key, colon, value. -/
def memberBytes (k : String) (v : Value) : Bytes :=
  Utf8.encode (Quoted.json k) ++ 58 :: Utf8.encode v.render

theorem encode_render_str (s : String) :
    Utf8.encode (Value.str s).render = 34 :: s.toList.flatMap Quoted.jsonBytes ++ [34] := by
  rw [Value.render, Quoted.encode_json]

theorem encode_render_arr (items : List Value) :
    Utf8.encode (Value.arr items).render = 91 :: Utf8.encode (renderItems items) ++ [93] := by
  rw [Value.render, Utf8.encode_append, Utf8.encode_append]
  rfl

theorem encode_render_obj (members : List (String × Value)) :
    Utf8.encode (Value.obj members).render = 123 :: Utf8.encode (renderMembers members) ++ [125] := by
  rw [Value.render, Utf8.encode_append, Utf8.encode_append]
  rfl

theorem encode_comma : Utf8.encode "," = [44] := rfl

theorem encode_colon : Utf8.encode ":" = [58] := rfl

/-- Items after the first are each written after a comma. -/
theorem encode_renderItems_cons (v : Value) (vs : List Value) :
    Utf8.encode (renderItems (v :: vs)) =
      Utf8.encode v.render ++ vs.flatMap fun w => 44 :: Utf8.encode w.render := by
  induction vs generalizing v with
  | nil => simp [renderItems]
  | cons w ws ih =>
    rw [renderItems.eq_3 v (w :: ws) (List.cons_ne_nil _ _), Utf8.encode_append, Utf8.encode_append, ih,
      List.flatMap_cons, encode_comma]
    simp only [List.append_assoc, List.cons_append, List.nil_append]

/-- Members after the first are each written after a comma. -/
theorem encode_renderMembers_cons (k : String) (v : Value) (ms : List (String × Value)) :
    Utf8.encode (renderMembers ((k, v) :: ms)) =
      memberBytes k v ++ ms.flatMap fun m => 44 :: memberBytes m.1 m.2 := by
  induction ms generalizing k v with
  | nil =>
    rw [renderMembers.eq_2, Utf8.encode_append, Utf8.encode_append, encode_colon, List.flatMap_nil,
      List.append_nil, memberBytes, List.append_assoc, List.singleton_append]
  | cons m ms ih =>
    obtain ⟨k', v'⟩ := m
    rw [renderMembers.eq_3 k v _ (List.cons_ne_nil _ _), Utf8.encode_append, Utf8.encode_append,
      Utf8.encode_append, Utf8.encode_append, ih, List.flatMap_cons, encode_comma, encode_colon]
    simp only [memberBytes, List.append_assoc, List.cons_append, List.nil_append]

end Json

end DocBatch
