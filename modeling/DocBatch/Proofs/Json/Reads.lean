import Mathlib.Data.String.Basic
import DocBatch.Proofs.Json.Text

/-!
# Typed decoders read back what was written

`Decoder.ReadsAt d depth v a` says that `d`, allowed `depth` levels of nesting, reads the text
of `v` back as `a` and stops right after it, whatever follows inside a document: nothing, a
comma or a closing bracket or brace (`Closes`; a number reads on through digits).
`Decoder.Reads` asks it of every allowance above `Value.depth v`, the nesting the text has.
Each form of decoder keeps the property:

* `string_readsAt` and `choice_readsAt` read string literals; `optional_readsAt` reads what
  its inner decoder reads, when the text does not open as `null`; `map_readsAt` applies the
  function;
* `list_readsAt` reads an array item by item, `dict_readsAt` an object whose keys increase,
  and `record_readsAt` an object whose members `Fills` the record's builder: each member names
  a slot not yet set, whose decoder reads the member's value (`Fills.unlessEmpty` for a member
  written only when its list is not empty, `list_readsAt_of_mem` for the array it holds);
* `readBytes_of_readsAt` reads a whole text, nothing after it.

The loops (`itemsText_rest`, `entriesText_rest`, `fieldsText_members`) are proved for the
items or members after the first, each after its comma, by induction on them; their fuel is
bounded by the octets still to read. The first item or member is apart because no comma
precedes it. `fieldsText_members` stops after the members that fill, so that what comes next
may be the closing brace (`fieldsText_rest`) or a member that is refused.
-/

namespace DocBatch

namespace Json

mutual
/-- How deep arrays and objects nest in a value: a scalar is 0 deep, an array or an object one
more than its deepest item. -/
def Value.depth : Value → Nat
  | .arr items => Value.itemsDepth items + 1
  | .obj members => Value.membersDepth members + 1
  | _ => 0

/-- The depth of the deepest item. -/
def Value.itemsDepth : List Value → Nat
  | [] => 0
  | v :: vs => max v.depth (Value.itemsDepth vs)

/-- The depth of the deepest member value. -/
def Value.membersDepth : List (String × Value) → Nat
  | [] => 0
  | (_, v) :: ms => max v.depth (Value.membersDepth ms)
end

namespace Value

theorem depth_le_itemsDepth {v : Value} :
    ∀ {items : List Value}, v ∈ items → v.depth ≤ itemsDepth items
  | w :: ws, h => by
    rw [itemsDepth]
    rcases List.mem_cons.mp h with rfl | h
    · exact le_max_left _ _
    · exact le_max_of_le_right (depth_le_itemsDepth h)

theorem depth_le_membersDepth {k : String} {v : Value} :
    ∀ {members : List (String × Value)}, (k, v) ∈ members → v.depth ≤ membersDepth members
  | (k', w) :: ms, h => by
    rw [membersDepth]
    rcases List.mem_cons.mp h with h | h
    · cases h
      exact le_max_left _ _
    · exact le_max_of_le_right (depth_le_membersDepth h)

theorem depth_lt_arr {v : Value} {items : List Value} (h : v ∈ items) :
    v.depth < (arr items).depth := by
  rw [depth]
  exact Nat.lt_succ_of_le (depth_le_itemsDepth h)

theorem depth_lt_obj {k : String} {v : Value} {members : List (String × Value)}
    (h : (k, v) ∈ members) : v.depth < (obj members).depth := by
  rw [depth]
  exact Nat.lt_succ_of_le (depth_le_membersDepth h)

theorem depth_arr_pos (items : List Value) : 0 < (arr items).depth := by
  rw [depth]
  omega

/-- An item of an array is read with one level of nesting less than the array. -/
theorem depth_lt_of_mem_arr {v : Value} {items : List Value} {depth : Nat} (h : v ∈ items)
    (hd : (arr items).depth < depth) : v.depth < depth - 1 := by
  have := depth_lt_arr h
  omega

/-- A member of an object is read with one level of nesting less than the object. -/
theorem depth_lt_of_mem_obj {k : String} {v : Value} {ms : List (String × Value)} {depth : Nat}
    (h : (k, v) ∈ ms) (hd : (obj ms).depth < depth) : v.depth < depth - 1 := by
  have := depth_lt_obj h
  omega

end Value

/-- A value whose text opens with an octet that is not blank and does not close an array:
what an array's reader takes for an item. -/
def Value.Opens (v : Value) : Prop :=
  ∃ b r, Utf8.encode v.render = b :: r ∧ Cursor.isBlank b = false ∧ b ≠ 93

theorem Value.opens_obj (members : List (String × Value)) : (Value.obj members).Opens :=
  ⟨123, _, by rw [encode_render_obj, List.cons_append], rfl, by decide⟩

namespace Cursor

/-! ## Separators -/

theorem nextItem_close (first : Bool) {c : Cursor} {r : Bytes} (h : c.rest = 93 :: r) :
    c.nextItem first = .ok (false, c) := by
  rw [nextItem, skipBlank_of_rest h rfl, h]
  rfl

theorem nextItem_first {c : Cursor} {b : UInt8} {r : Bytes} (h : c.rest = b :: r)
    (hb : isBlank b = false) (h93 : b ≠ 93) : c.nextItem true = .ok (true, c) := by
  rw [nextItem, skipBlank_of_rest h hb, h]
  simp only [if_neg h93, if_true]

theorem nextItem_comma {c : Cursor} {b : UInt8} {r : Bytes} (h : c.rest = 44 :: b :: r)
    (hb : isBlank b = false) (h93 : b ≠ 93) : c.nextItem false = .ok (true, c.bump) := by
  rw [nextItem, skipBlank_of_rest h rfl, h, skipBlank_of_rest (bump_rest h) hb]
  simp only [bump_rest h, if_neg h93]
  rfl

theorem closeList_of_rest {c : Cursor} {r : Bytes} (h : c.rest = 93 :: r) :
    c.closeList = .ok c.bump := by
  rw [closeList, skipBlank_of_rest h rfl, h]
  rfl

theorem closeObject_of_rest {c : Cursor} {r : Bytes} (h : c.rest = 125 :: r) :
    c.closeObject = .ok c.bump := by
  rw [closeObject, skipBlank_of_rest h rfl, h]
  rfl

theorem colon_of_rest {c : Cursor} {r : Bytes} (h : c.rest = 58 :: r) : c.colon = .ok c.bump := by
  rw [colon, skipBlank_of_rest h rfl, h]
  rfl

theorem deeper_of_two_le {depth : Nat} (h : 2 ≤ depth) (c : Cursor) :
    deeper depth c = .ok (depth - 1) := by
  rw [deeper, if_neg (by omega)]

theorem nextKey_close (first : Bool) {c : Cursor} {r : Bytes} (h : c.rest = 125 :: r) :
    c.nextKey first = .ok (none, c) := by
  rw [nextKey, skipBlank_of_rest h rfl, h]
  rfl

/-- A key, read as a string literal. -/
theorem key_json {k : String} {c : Cursor} {rest : Bytes}
    (h : c.rest = Utf8.encode (Quoted.json k) ++ rest) :
    ∃ c', c.key = .ok (some k, c') ∧ c'.rest = rest := by
  simp only [Quoted.encode_json, List.cons_append, List.append_assoc] at h
  obtain ⟨c', hs, hc'⟩ := string_json k c.bump rest (bump_rest h)
  refine ⟨c', ?_, hc'⟩
  rw [key, h]
  simp only [if_true, hs]
  rfl

theorem nextKey_first {k : String} {c : Cursor} {rest : Bytes}
    (h : c.rest = Utf8.encode (Quoted.json k) ++ rest) :
    ∃ c', c.nextKey true = .ok (some k, c') ∧ c'.rest = rest := by
  obtain ⟨c', hk, hc'⟩ := key_json h
  refine ⟨c', ?_, hc'⟩
  rw [Quoted.encode_json, List.cons_append] at h
  rw [nextKey, skipBlank_of_rest h rfl, h]
  simpa using hk

theorem nextKey_comma {k : String} {c : Cursor} {rest : Bytes}
    (h : c.rest = 44 :: Utf8.encode (Quoted.json k) ++ rest) :
    ∃ c', c.nextKey false = .ok (some k, c') ∧ c'.rest = rest := by
  have h1 := bump_rest h
  obtain ⟨c', hk, hc'⟩ := key_json h1
  refine ⟨c', ?_, hc'⟩
  rw [Quoted.encode_json, List.cons_append] at h1
  rw [nextKey, skipBlank_of_rest h rfl, h, skipBlank_of_rest h1 rfl]
  simpa [← h1] using hk

end Cursor

/-- What may follow a value inside a document: nothing, a comma, or a closing bracket or
brace. -/
def Closes (rest : Bytes) : Prop := ∀ b r, rest = b :: r → b = 44 ∨ b = 93 ∨ b = 125

theorem closes_nil : Closes [] := fun _ _ h => nomatch h

theorem closes_cons {b : UInt8} (r : Bytes) (hb : b = 44 ∨ b = 93 ∨ b = 125) :
    Closes (b :: r) := by
  intro b' r' h
  rw [(List.cons.inj h).1.symm]
  exact hb

/-- Items or members, each after its comma, then what closes them. -/
theorem closes_flatMap_comma {α : Type} (xs : List α) (f : α → Bytes) {tail : Bytes}
    (h : Closes tail) : Closes ((xs.flatMap fun x => 44 :: f x) ++ tail) := by
  cases xs with
  | nil => exact h
  | cons x xs =>
    rw [List.flatMap_cons, List.cons_append]
    exact closes_cons _ (.inl rfl)

theorem length_le_flatMap_comma {α : Type} (f : α → Bytes) :
    ∀ xs : List α, xs.length ≤ (xs.flatMap fun x => 44 :: f x).length
  | [] => le_rfl
  | x :: xs => by
    rw [List.flatMap_cons, List.length_append, List.length_cons, List.length_cons]
    have := length_le_flatMap_comma f xs
    omega

namespace Decoder

variable {α β σ : Type}

/-! ## Decoders that read back what was written -/

/-- `d` reads the text of `v` back as `a` when `depth` levels of nesting are allowed, whatever
closes the text, and leaves the cursor right after it. -/
def ReadsAt (d : Decoder α) (depth : Nat) (v : Value) (a : α) : Prop :=
  ∀ (c : Cursor) (rest : Bytes), c.rest = Utf8.encode v.render ++ rest → Closes rest →
    ∃ c', d.text depth c = .ok (a, c') ∧ c'.rest = rest

theorem map_readsAt {f : α → β} {d : Decoder α} {depth : Nat} {v : Value} {a : α}
    (h : d.ReadsAt depth v a) : (d.map f).ReadsAt depth v (f a) := by
  intro c rest hc hclose
  obtain ⟨c', hd, hc'⟩ := h c rest hc hclose
  refine ⟨c', ?_, hc'⟩
  simp only [map, hd]
  rfl

theorem string_readsAt (depth : Nat) (s : String) : string.ReadsAt depth (.str s) s := by
  intro c rest hc _
  simp only [encode_render_str, List.cons_append, List.append_assoc] at hc
  obtain ⟨c', hs, hc'⟩ := Cursor.string_json s c.bump rest (Cursor.bump_rest hc)
  refine ⟨c', ?_, hc'⟩
  simp only [string, Cursor.skipBlank_of_rest hc rfl, hc, if_true, hs]

/-- `optional d` reads what `d` reads, when the text does not open as `null` does. -/
theorem optional_readsAt {d : Decoder α} {depth : Nat} {v : Value} {a : α}
    (h : d.ReadsAt depth v a) {b : UInt8} {r : Bytes} (hv : Utf8.encode v.render = b :: r)
    (hb : Cursor.isBlank b = false)
    (h110 : b ≠ 110) : (optional d).ReadsAt depth v (some a) := by
  intro c rest hc hclose
  obtain ⟨c', hd, hc'⟩ := h c rest hc hclose
  refine ⟨c', ?_, hc'⟩
  rw [hv, List.cons_append] at hc
  have hskip := Cursor.skipBlank_of_rest hc hb
  simp only [optional, hskip, hc]
  split
  · rename_i heq
    exact absurd (List.cons.inj heq).1 h110
  · rw [hd]
    rfl

theorem optional_string_readsAt (depth : Nat) (s : String) :
    (optional string).ReadsAt depth (.str s) (some s) :=
  optional_readsAt (string_readsAt depth s) (by rw [encode_render_str, List.cons_append]) rfl
    (by decide)

theorem choice_readsAt {variants : List (String × α)} {s : String} {a : α}
    (h : pick variants s = .ok a) (depth : Nat) : (choice variants).ReadsAt depth (.str s) a := by
  intro c rest hc _
  simp only [encode_render_str, List.cons_append, List.append_assoc] at hc
  obtain ⟨c', hs, hc'⟩ := Cursor.string_json s c.bump rest (Cursor.bump_rest hc)
  refine ⟨c', ?_, hc'⟩
  simp only [choice, Cursor.skipBlank_of_rest hc rfl, hc, if_true, hs, bind, Except.bind, h]
  rfl

/-! ## Arrays -/

/-- The items after the first, each after a comma, are read up to the closing bracket. -/
theorem itemsText_rest {d : Decoder α} {depth : Nat} {g : α → Value} (rest : Bytes) :
    ∀ (xs : List α) (fuel : Nat) (acc : List α) (c : Cursor),
      (∀ x ∈ xs, (g x).Opens ∧ d.ReadsAt depth (g x) x) →
      (xs.flatMap fun x => 44 :: Utf8.encode (g x).render).length < fuel →
      c.rest = (xs.flatMap fun x => 44 :: Utf8.encode (g x).render) ++ 93 :: rest →
      ∃ c', itemsText d depth fuel false acc c = .ok (acc.reverse ++ xs, c') ∧
        c'.rest = 93 :: rest
  | [], fuel + 1, acc, c, _, _, hc => by
    refine ⟨c, ?_, hc⟩
    rw [itemsText, Cursor.nextItem_close false hc, List.append_nil]
    rfl
  | x :: xs, fuel + 1, acc, c, hx, hlen, hc => by
    obtain ⟨⟨b, r, hv, hb, h93⟩, hread⟩ := hx x List.mem_cons_self
    rw [List.flatMap_cons, List.length_append, List.length_cons] at hlen
    simp only [List.flatMap_cons, List.cons_append, List.append_assoc] at hc
    have hc' := hc
    rw [hv, List.cons_append] at hc'
    obtain ⟨c₁, hd, hc₁⟩ :=
      hread c.bump _ (Cursor.bump_rest hc) (closes_flatMap_comma _ _ (closes_cons _ (by decide)))
    obtain ⟨c₂, hitems, hc₂⟩ := itemsText_rest rest xs fuel (x :: acc) c₁
      (fun y hy => hx y (List.mem_cons_of_mem _ hy)) (by omega) hc₁
    refine ⟨c₂, ?_, hc₂⟩
    rw [itemsText, Cursor.nextItem_comma hc' hb h93]
    simp only [bind, Except.bind, if_true, hd, hitems, List.reverse_cons, List.append_assoc,
      List.singleton_append]

/-- The items of an array, its opening bracket taken, are read up to the closing bracket. -/
theorem itemsText_first {d : Decoder α} {depth : Nat} {g : α → Value} (rest : Bytes)
    (xs : List α) (fuel : Nat) (c : Cursor)
    (hx : ∀ x ∈ xs, (g x).Opens ∧ d.ReadsAt depth (g x) x)
    (hlen : (Utf8.encode (renderItems (xs.map g))).length < fuel)
    (hc : c.rest = Utf8.encode (renderItems (xs.map g)) ++ 93 :: rest) :
    ∃ c', itemsText d depth fuel true [] c = .ok (xs, c') ∧ c'.rest = 93 :: rest := by
  obtain ⟨f, rfl⟩ : ∃ f, fuel = f + 1 := ⟨fuel - 1, by omega⟩
  cases xs with
  | nil =>
    refine ⟨c, ?_, hc⟩
    rw [itemsText, Cursor.nextItem_close true hc]
    rfl
  | cons x xs =>
    obtain ⟨⟨b, r, hv, hb, h93⟩, hread⟩ := hx x List.mem_cons_self
    rw [List.map_cons, encode_renderItems_cons, List.flatMap_map] at hlen hc
    rw [List.append_assoc] at hc
    have hc' := hc
    rw [hv, List.cons_append] at hc'
    obtain ⟨c₁, hd, hc₁⟩ :=
      hread c _ hc (closes_flatMap_comma _ _ (closes_cons _ (by decide)))
    rw [List.length_append, hv, List.length_cons] at hlen
    obtain ⟨c₂, hitems, hc₂⟩ := itemsText_rest rest xs f [x] c₁
      (fun y hy => hx y (List.mem_cons_of_mem _ hy)) (by omega) hc₁
    refine ⟨c₂, ?_, hc₂⟩
    rw [itemsText, Cursor.nextItem_first hc' hb h93]
    simp only [bind, Except.bind, if_true, hd, hitems]
    rfl

/-- An array is read back item by item, each item with one level of nesting less. -/
theorem list_readsAt {d : Decoder α} {depth : Nat} {g : α → Value} {xs : List α}
    (hd : 2 ≤ depth) (hx : ∀ x ∈ xs, (g x).Opens ∧ d.ReadsAt (depth - 1) (g x) x) :
    (list d).ReadsAt depth (.arr (xs.map g)) xs := by
  intro c rest hc _
  simp only [encode_render_arr, List.cons_append, List.append_assoc, List.nil_append] at hc
  obtain ⟨c₁, hitems, hc₁⟩ := itemsText_first rest xs c.rest.length c.bump hx
    (by rw [hc, List.length_cons, List.length_append, List.length_cons]; omega)
    (Cursor.bump_rest hc)
  refine ⟨c₁.bump, ?_, Cursor.bump_rest hc₁⟩
  simp only [list, Cursor.skipBlank_of_rest hc rfl]
  split
  · rename_i heq
    rw [hc] at heq
    cases heq
  · rename_i b tail heq
    rw [hc] at heq
    obtain ⟨rfl, -⟩ := List.cons.inj heq
    simp only [if_true, Cursor.deeper_of_two_le hd, bind, Except.bind, hitems,
      Cursor.closeList_of_rest hc₁]
    rfl

/-- An array held by a member of an object is read back at one level below the object, when
each item is read back at the level below that. -/
theorem list_readsAt_of_mem {d : Decoder α} {depth : Nat} {g : α → Value} {xs : List α}
    (k : String) {ms : List (String × Value)} (hmem : (k, .arr (xs.map g)) ∈ ms)
    (hd : (Value.obj ms).depth < depth)
    (hx : ∀ x ∈ xs, (g x).depth < depth - 1 - 1 →
      (g x).Opens ∧ d.ReadsAt (depth - 1 - 1) (g x) x) :
    (list d).ReadsAt (depth - 1) (.arr (xs.map g)) xs := by
  have harr := Value.depth_lt_of_mem_obj hmem hd
  have h2 : 2 ≤ depth - 1 := by
    have := Value.depth_arr_pos (xs.map g)
    omega
  exact list_readsAt h2 fun x hx' =>
    hx x hx' (Value.depth_lt_of_mem_arr (List.mem_map_of_mem hx') harr)

/-! ## Objects read as dictionaries -/

/-- A key past every key of a sorted dictionary goes at its end. -/
theorem insertSorted_of_lt {k : String} {a : α} :
    ∀ {acc : List (String × α)}, (∀ kv ∈ acc, kv.1 < k) →
      insertSorted k a acc = acc ++ [(k, a)]
  | [], _ => rfl
  | (k', a') :: acc, h => by
    have hlt : k' < k := h _ List.mem_cons_self
    rw [insertSorted, if_neg (lt_asymm hlt), if_neg hlt.ne',
      insertSorted_of_lt fun kv hkv => h kv (List.mem_cons_of_mem _ hkv)]
    rfl

/-- One member of a dictionary: its key, the colon, and its value read back. -/
theorem entriesText_member {d : Decoder α} {depth : Nat} {first : Bool} {c c₁ : Cursor}
    {k : String} {v : Value} {a : α} {tail : Bytes} (hkey : c.nextKey first = .ok (some k, c₁))
    (hc₁ : c₁.rest = 58 :: Utf8.encode v.render ++ tail) (htail : Closes tail)
    (hread : d.ReadsAt depth v a) (fuel : Nat) (acc : List (String × α)) :
    ∃ c₂, c₂.rest = tail ∧ entriesText d depth (fuel + 1) first acc c =
      entriesText d depth fuel false (insertSorted k a acc) c₂ := by
  rw [List.cons_append] at hc₁
  obtain ⟨c₂, hd, hc₂⟩ := hread c₁.bump tail (Cursor.bump_rest hc₁) htail
  refine ⟨c₂, hc₂, ?_⟩
  rw [entriesText]
  simp only [hkey, bind, Except.bind, Cursor.colon_of_rest hc₁, hd]

/-- The members after the first, each after a comma, are read up to the closing brace; the
keys come in increasing order, so each goes at the end of what was read. -/
theorem entriesText_rest {d : Decoder α} {depth : Nat} {g : α → Value} (rest : Bytes) :
    ∀ (kvs : List (String × α)) (fuel : Nat) (acc : List (String × α)) (c : Cursor),
      (∀ kv ∈ kvs, d.ReadsAt depth (g kv.2) kv.2) → (acc ++ kvs).Pairwise (·.1 < ·.1) →
      (kvs.flatMap fun kv => 44 :: memberBytes kv.1 (g kv.2)).length < fuel →
      c.rest = (kvs.flatMap fun kv => 44 :: memberBytes kv.1 (g kv.2)) ++ 125 :: rest →
      ∃ c', entriesText d depth fuel false acc c = .ok (acc ++ kvs, c') ∧ c'.rest = 125 :: rest
  | [], fuel + 1, acc, c, _, _, _, hc => by
    refine ⟨c, ?_, hc⟩
    rw [entriesText, Cursor.nextKey_close false hc, List.append_nil]
    rfl
  | (k, a) :: kvs, fuel + 1, acc, c, hx, hs, hlen, hc => by
    rw [List.flatMap_cons, List.length_append, List.length_cons] at hlen
    rw [List.flatMap_cons, memberBytes] at hc
    simp only [List.cons_append, List.append_assoc] at hc
    obtain ⟨c₁, hkey, hc₁⟩ := Cursor.nextKey_comma (k := k) (by rw [hc, List.cons_append])
    obtain ⟨c₂, hc₂, hstep⟩ :=
      entriesText_member hkey hc₁ (closes_flatMap_comma _ _ (closes_cons _ (by decide)))
        (hx (k, a) List.mem_cons_self) fuel acc
    have hlt : ∀ kv ∈ acc, kv.1 < k := fun kv hkv =>
      (List.pairwise_append.mp hs).2.2 kv hkv (k, a) List.mem_cons_self
    obtain ⟨c₃, hentries, hc₃⟩ := entriesText_rest rest kvs fuel (acc ++ [(k, a)]) c₂
      (fun kv hkv => hx kv (List.mem_cons_of_mem _ hkv)) (by simpa using hs) (by omega) hc₂
    refine ⟨c₃, ?_, hc₃⟩
    rw [hstep, insertSorted_of_lt hlt, hentries, List.append_assoc, List.singleton_append]

/-- The members of an object, its opening brace taken, are read up to the closing brace. -/
theorem entriesText_first {d : Decoder α} {depth : Nat} {g : α → Value} (rest : Bytes)
    (kvs : List (String × α)) (fuel : Nat) (c : Cursor)
    (hx : ∀ kv ∈ kvs, d.ReadsAt depth (g kv.2) kv.2)
    (hs : kvs.Pairwise (·.1 < ·.1))
    (hlen : (Utf8.encode (renderMembers (kvs.map fun kv => (kv.1, g kv.2)))).length < fuel)
    (hc : c.rest = Utf8.encode (renderMembers (kvs.map fun kv => (kv.1, g kv.2))) ++ 125 :: rest) :
    ∃ c', entriesText d depth fuel true [] c = .ok (kvs, c') ∧ c'.rest = 125 :: rest := by
  obtain ⟨f, rfl⟩ : ∃ f, fuel = f + 1 := ⟨fuel - 1, by omega⟩
  cases kvs with
  | nil =>
    refine ⟨c, ?_, hc⟩
    rw [entriesText, Cursor.nextKey_close true hc]
    rfl
  | cons kv kvs =>
    obtain ⟨k, a⟩ := kv
    rw [List.map_cons, encode_renderMembers_cons, List.flatMap_map] at hlen hc
    rw [List.length_append] at hlen
    rw [List.append_assoc, memberBytes, List.append_assoc] at hc
    obtain ⟨c₁, hkey, hc₁⟩ := Cursor.nextKey_first hc
    obtain ⟨c₂, hc₂, hstep⟩ :=
      entriesText_member hkey hc₁ (closes_flatMap_comma _ _ (closes_cons _ (by decide)))
        (hx (k, a) List.mem_cons_self) f []
    obtain ⟨c₃, hentries, hc₃⟩ := entriesText_rest rest kvs f [(k, a)] c₂
      (fun kv hkv => hx kv (List.mem_cons_of_mem _ hkv)) hs
      (by simp only [memberBytes, List.length_append, List.length_cons] at hlen ⊢; omega) hc₂
    exact ⟨c₃, by rw [hstep]; exact hentries, hc₃⟩

/-- An object whose keys increase is read back as the dictionary it was written from, each
value with one level of nesting less. -/
theorem dict_readsAt {d : Decoder α} {depth : Nat} {g : α → Value} {kvs : List (String × α)}
    (hd : 2 ≤ depth) (hx : ∀ kv ∈ kvs, d.ReadsAt (depth - 1) (g kv.2) kv.2)
    (hs : kvs.Pairwise (·.1 < ·.1)) :
    (dict d).ReadsAt depth (.obj (kvs.map fun kv => (kv.1, g kv.2))) kvs := by
  intro c rest hc _
  simp only [encode_render_obj, List.cons_append, List.append_assoc, List.nil_append] at hc
  obtain ⟨c₁, hentries, hc₁⟩ := entriesText_first rest kvs c.rest.length c.bump hx hs
    (by rw [hc, List.length_cons, List.length_append, List.length_cons]; omega)
    (Cursor.bump_rest hc)
  refine ⟨c₁.bump, ?_, Cursor.bump_rest hc₁⟩
  simp only [dict, Cursor.skipBlank_of_rest hc rfl]
  split
  · rename_i heq
    rw [hc] at heq
    cases heq
  · rename_i b tail heq
    rw [hc] at heq
    obtain ⟨rfl, -⟩ := List.cons.inj heq
    simp only [if_true, Cursor.deeper_of_two_le hd, bind, Except.bind, hentries,
      Cursor.closeObject_of_rest hc₁]
    rfl

/-! ## Records -/

/-- The members of an object, read in order, take a record's builder from `s` to `s'`: each key
names a slot not yet set, whose decoder reads the member's value back as the change it makes
to the builder. -/
inductive Fills (slots : List (Slot σ)) (depth : Nat) :
    List (String × Value) → σ → σ → Prop
  | nil (s : σ) : Fills slots depth [] s s
  | cons {k : String} {v : Value} {ms : List (String × Value)} {s s' : σ} (slot : Slot σ)
      (f : σ → σ) : slots.find? (·.key == k) = some slot → slot.isSet s = false →
      slot.read.ReadsAt depth v f → Fills slots depth ms (f s) s' →
      Fills slots depth ((k, v) :: ms) s s'

/-- A member filling a slot whose decoder is a map: the change is the map's function applied to
what the inner decoder reads. The slot is matched as a whole, so that its function is found
by unification. -/
theorem Fills.cons_map {slots : List (Slot σ)} {depth : Nat} {k key : String}
    {required requiredInArray : Bool} {isSet : σ → Bool} {d : Decoder β} {F : β → σ → σ}
    {v : Value} {a : β} {ms : List (String × Value)} {s s' : σ}
    (hfind : slots.find? (·.key == k) = some ⟨key, required, requiredInArray, isSet, d.map F⟩)
    (hset : isSet s = false) (ha : d.ReadsAt depth v a) (hrest : Fills slots depth ms (F a s) s') :
    Fills slots depth ((k, v) :: ms) s s' :=
  .cons _ (F a) hfind hset (map_readsAt ha) hrest

/-- A member written only when its list is not empty fills the slot that reads it, and leaves
the builder as it was when the list is empty. -/
theorem Fills.unlessEmpty {slots : List (Slot σ)} {depth : Nat} {k key : String}
    {required requiredInArray : Bool} {isSet : σ → Bool} {d : Decoder (List β)}
    {F : List β → σ → σ} {v : Value} {xs : List β} {s s' : σ}
    (hfind : slots.find? (·.key == k) = some ⟨key, required, requiredInArray, isSet, d.map F⟩)
    (hset : isSet s = false) (hs' : s' = if xs.isEmpty then s else F xs s)
    (ha : xs.isEmpty = false → d.ReadsAt depth v xs) :
    Fills slots depth (if xs.isEmpty then [] else [(k, v)]) s s' := by
  subst hs'
  cases h : xs.isEmpty with
  | true => exact .nil _
  | false => exact .cons_map hfind hset (ha h) (.nil _)

/-- Members that fill the builder one after the other fill it together. -/
theorem Fills.append {slots : List (Slot σ)} {depth : Nat} {ms₁ ms₂ : List (String × Value)}
    {s s' : σ} (s₁ : σ) (h₁ : Fills slots depth ms₁ s s₁)
    (h₂ : Fills slots depth ms₂ s₁ s') :
    Fills slots depth (ms₁ ++ ms₂) s s' := by
  induction h₁ with
  | nil => exact h₂
  | cons slot f hfind hset hread _ ih => exact .cons slot f hfind hset hread (ih h₂)

/-- One member of a record: its key names a slot not yet set, whose decoder reads the value. -/
theorem fieldsText_member {slots : List (Slot σ)} {depth : Nat} {first : Bool} {c c₁ : Cursor}
    {k : String} {v : Value} {tail : Bytes} {s : σ} {slot : Slot σ} {f : σ → σ}
    (hkey : c.nextKey first = .ok (some k, c₁))
    (hc₁ : c₁.rest = 58 :: Utf8.encode v.render ++ tail)
    (htail : Closes tail) (hslot : slots.find? (·.key == k) = some slot)
    (hset : slot.isSet s = false) (hread : slot.read.ReadsAt depth v f) (fuel : Nat) :
    ∃ c₂, c₂.rest = tail ∧ fieldsText slots depth (fuel + 1) first s c =
      fieldsText slots depth fuel false (f s) c₂ := by
  rw [List.cons_append] at hc₁
  obtain ⟨c₂, hd, hc₂⟩ := hread c₁.bump tail (Cursor.bump_rest hc₁) htail
  refine ⟨c₂, hc₂, ?_⟩
  rw [fieldsText]
  simp only [hkey, bind, Except.bind, hslot, hset, Bool.false_eq_true, if_false,
    Cursor.colon_of_rest hc₁, hd]

/-- Members, each after a comma, that fill the builder are read one after the other; the reading
goes on at what follows them, one step of fuel spent for each. -/
theorem fieldsText_members {slots : List (Slot σ)} {depth : Nat} {tail : Bytes}
    (htail : Closes tail) {ms : List (String × Value)} {s s' : σ} (h : Fills slots depth ms s s')
    (fuel : Nat) :
    ∀ c : Cursor, c.rest = (ms.flatMap fun m => 44 :: memberBytes m.1 m.2) ++ tail →
      ∃ c', c'.rest = tail ∧ fieldsText slots depth (fuel + ms.length) false s c =
        fieldsText slots depth fuel false s' c' := by
  induction h with
  | nil s => exact fun c hc => ⟨c, hc, rfl⟩
  | @cons k v ms s s' slot f hslot hset hread _ ih =>
    intro c hc
    rw [List.flatMap_cons, memberBytes] at hc
    simp only [List.cons_append, List.append_assoc] at hc
    obtain ⟨c₁, hkey, hc₁⟩ := Cursor.nextKey_comma (k := k) (by rw [hc, List.cons_append])
    obtain ⟨c₂, hc₂, hstep⟩ := fieldsText_member hkey hc₁ (closes_flatMap_comma _ _ htail)
      hslot hset hread (fuel + ms.length)
    obtain ⟨c₃, hc₃, hrest⟩ := ih c₂ hc₂
    refine ⟨c₃, hc₃, ?_⟩
    rw [List.length_cons, ← Nat.add_assoc, hstep, hrest]

/-- The members after the first, each after a comma, fill the builder up to the closing
brace. -/
theorem fieldsText_rest {slots : List (Slot σ)} {depth : Nat} (rest : Bytes)
    {ms : List (String × Value)} {s s' : σ} (h : Fills slots depth ms s s') (fuel : Nat)
    (c : Cursor)
    (hlen : (ms.flatMap fun m => 44 :: memberBytes m.1 m.2).length < fuel)
    (hc : c.rest = (ms.flatMap fun m => 44 :: memberBytes m.1 m.2) ++ 125 :: rest) :
    ∃ c', fieldsText slots depth fuel false s c = .ok (s', c') ∧ c'.rest = 125 :: rest := by
  have := length_le_flatMap_comma (fun m => memberBytes m.1 m.2) ms
  obtain ⟨c', hc', hsteps⟩ :=
    fieldsText_members (closes_cons _ (by decide)) h (fuel - ms.length - 1 + 1) c hc
  refine ⟨c', ?_, hc'⟩
  rw [show fuel = fuel - ms.length - 1 + 1 + ms.length by omega, hsteps, fieldsText,
    Cursor.nextKey_close false hc']
  rfl

/-- The members of a record object, its opening brace taken, fill the builder up to the closing
brace. -/
theorem fieldsText_first {slots : List (Slot σ)} {depth : Nat} (rest : Bytes)
    {ms : List (String × Value)} {s s' : σ} (h : Fills slots depth ms s s') (fuel : Nat)
    (c : Cursor)
    (hlen : (Utf8.encode (renderMembers ms)).length < fuel)
    (hc : c.rest = Utf8.encode (renderMembers ms) ++ 125 :: rest) :
    ∃ c', fieldsText slots depth fuel true s c = .ok (s', c') ∧ c'.rest = 125 :: rest := by
  obtain ⟨n, rfl⟩ : ∃ n, fuel = n + 1 := ⟨fuel - 1, by omega⟩
  cases h with
  | nil s =>
    refine ⟨c, ?_, hc⟩
    rw [fieldsText, Cursor.nextKey_close true hc]
    rfl
  | @cons k v ms s s' slot f hslot hset hread hrest =>
    rw [encode_renderMembers_cons, List.length_append] at hlen
    rw [encode_renderMembers_cons, List.append_assoc, memberBytes, List.append_assoc] at hc
    obtain ⟨c₁, hkey, hc₁⟩ := Cursor.nextKey_first hc
    obtain ⟨c₂, hc₂, hstep⟩ :=
      fieldsText_member hkey hc₁ (closes_flatMap_comma _ _ (closes_cons _ (by decide))) hslot hset
        hread n
    rw [hstep]
    exact fieldsText_rest rest hrest n c₂
      (by simp only [memberBytes, List.length_append, List.length_cons] at hlen ⊢; omega) hc₂

/-- A record object is read back as what its builder is built into, when its members fill the
builder, each with one level of nesting less, and leave no required field missing. -/
theorem record_readsAt {name : String} {slots : List (Slot σ)} {init s : σ} {build : σ → α}
    {depth : Nat} {ms : List (String × Value)} (hd : 2 ≤ depth)
    (h : Fills slots (depth - 1) ms init s)
    (hm : firstMissing slots s = none) :
    (record name slots init build).ReadsAt depth (.obj ms) (build s) := by
  intro c rest hc _
  simp only [encode_render_obj, List.cons_append, List.append_assoc, List.nil_append] at hc
  obtain ⟨c₁, hfields, hc₁⟩ := fieldsText_first rest h c.rest.length c.bump
    (by rw [hc, List.length_cons, List.length_append, List.length_cons]; omega)
    (Cursor.bump_rest hc)
  refine ⟨c₁.bump, ?_, Cursor.bump_rest hc₁⟩
  simp only [record, Cursor.skipBlank_of_rest hc rfl]
  split
  · rename_i heq
    rw [hc] at heq
    cases heq
  · rename_i b tail heq
    rw [hc] at heq
    obtain ⟨rfl, -⟩ := List.cons.inj heq
    simp only [if_true, Cursor.deeper_of_two_le hd, bind, Except.bind, hfields,
      Cursor.closeObject_of_rest hc₁, hm]
    rfl

/-- `record_readsAt` with the builder's last state named and the value it builds given by an
equation. -/
theorem record_readsAt_of_eq {name : String} {slots : List (Slot σ)} {init : σ} (s : σ)
    {build : σ → α} {depth : Nat} {ms : List (String × Value)} {a : α} (hd : 2 ≤ depth)
    (h : Fills slots (depth - 1) ms init s) (hm : firstMissing slots s = none) (hb : build s = a) :
    (record name slots init build).ReadsAt depth (.obj ms) a :=
  hb ▸ record_readsAt hd h hm

/-! ## Any nesting deep enough -/

/-- `d` reads the text of `v` back as `a` whenever more levels of nesting are allowed than `v`
has. -/
def Reads (d : Decoder α) (v : Value) (a : α) : Prop :=
  ∀ depth, v.depth < depth → d.ReadsAt depth v a

theorem string_reads (s : String) : string.Reads (.str s) s :=
  fun depth _ => string_readsAt depth s

theorem choice_reads {variants : List (String × α)} {s : String} {a : α}
    (h : pick variants s = .ok a) : (choice variants).Reads (.str s) a :=
  fun depth _ => choice_readsAt h depth

theorem list_reads {d : Decoder α} {g : α → Value} {xs : List α}
    (hx : ∀ x ∈ xs, (g x).Opens ∧ d.Reads (g x) x) : (list d).Reads (.arr (xs.map g)) xs := by
  intro depth hdepth
  have hitem : ∀ x ∈ xs, (g x).depth < depth - 1 := fun x hx =>
    have := Value.depth_lt_arr (List.mem_map_of_mem (f := g) hx)
    by omega
  have h1 : 1 ≤ (Value.arr (xs.map g)).depth := by rw [Value.depth]; omega
  exact list_readsAt (by omega) fun x hmem => ⟨(hx x hmem).1, (hx x hmem).2 _ (hitem x hmem)⟩

theorem dict_reads {d : Decoder α} {g : α → Value} {kvs : List (String × α)}
    (hx : ∀ kv ∈ kvs, d.Reads (g kv.2) kv.2) (hs : kvs.Pairwise (·.1 < ·.1)) :
    (dict d).Reads (.obj (kvs.map fun kv => (kv.1, g kv.2))) kvs := by
  intro depth hdepth
  have hitem : ∀ kv ∈ kvs, (g kv.2).depth < depth - 1 := fun kv hkv =>
    have := Value.depth_lt_obj (List.mem_map_of_mem (f := fun kv => (kv.1, g kv.2)) hkv)
    by omega
  have h1 : 1 ≤ (Value.obj (kvs.map fun kv => (kv.1, g kv.2))).depth := by rw [Value.depth]; omega
  exact dict_readsAt (by omega) (fun kv hmem => hx kv hmem _ (hitem kv hmem)) hs

/-- A whole text is read back, nothing after it, by a decoder that reads it at the top level
of nesting. -/
theorem readBytes_of_readsAt {d : Decoder α} {v : Value} {a : α}
    (h : d.ReadsAt Cursor.depthLimit v a) : d.readBytes (Utf8.encode v.render) = .ok a := by
  obtain ⟨c', hd, hc'⟩ := h (Cursor.ofBytes (Utf8.encode v.render)) [] (List.append_nil _).symm
    closes_nil
  simp only [readBytes, hd, bind, Except.bind, Cursor.finish, Cursor.skipBlank_of_nil hc', hc']
  rfl

end Decoder

end Json

end DocBatch
