import DocBatch.Proofs.Json.Numbers
import DocBatch.Proofs.Json.Refuses
import DocBatch.Document.Codec

/-!
# The wire form of tasks and results

A task's data is the text of its document's JSON value (`Payload.toJson`), and a result goes out
as the text of its patch's (`Patch.toJson`). Both leave out some of what the reader fills back
in: a value's `utf8` encoding, a subdocument's absent reference and an empty list of
subdocuments; a patch also its empty changes and failures, and a failure its absent parts. A
task's fields and custom data are always written, empty maps included. The readers restore
exactly what is left out. Each record's members fill its builder in the
order they are written (`Fills`, from `Json/Reads.lean`), and the recursive decoders of
subdocuments are read by induction on their fuel, which is never below the nesting allowed
(`SubPayload.decoder_readsAt`, `SubPatch.decoder_readsAt`). `Codec.json_round_trip` puts the
two directions together.

Two conditions stand in these theorems. The maps have increasing names, as the sorted maps of a
task and a result always do (`Payload.Sorted`, `Patch.WellFormed`): a list with a name twice or
out of order is the wire form of nothing. And the text nests less than `Json.Cursor.depthLimit`
levels.

**The second condition cannot be dropped.** The reader refuses any text that nests 128 levels,
whatever it holds (`Json/Refuses.lean`). The task made of 63 nested subdocuments and nothing
else is sorted, and is not read back (`Payload.sixty_three_nested_refused`). For tasks made
only of nested subdocuments the round trip holds for up to 62 of them, and for no more
(`Payload.decode_nested_iff`).
-/

namespace DocBatch

open Json Decoder

namespace FieldValue

theorem toJson_opens (v : FieldValue) : v.toJson.Opens := by
  obtain ⟨data, enc⟩ := v
  cases enc <;> exact Value.opens_obj _

theorem depth_toJson (v : FieldValue) : v.toJson.depth = 1 := by
  obtain ⟨data, enc⟩ := v
  cases enc <;> rfl

/-- A value is read back from its wire form. -/
theorem decoder_reads (v : FieldValue) : decoder.Reads v.toJson v := by
  intro depth hdepth
  rw [depth_toJson] at hdepth
  obtain ⟨data, enc⟩ := v
  unfold decoder
  cases enc with
  | utf8 =>
    exact record_readsAt_of_eq _ hdepth (.cons_map rfl rfl (string_readsAt _ data) (.nil _)) rfl rfl
  | base64 | storageRef =>
    exact record_readsAt_of_eq _ hdepth (.cons_map rfl rfl (string_readsAt _ data)
      (.cons_map rfl rfl (choice_readsAt rfl _) (.nil _))) rfl rfl

end FieldValue

theorem FieldMap.toJson_eq (fs : FieldMap) :
    fs.toJson = .obj (fs.map fun kv => (kv.1, .arr (kv.2.map FieldValue.toJson))) := rfl

/-- A field map whose names increase is read back from its wire form. -/
theorem FieldMap.decoder_reads {fs : FieldMap} (hs : fs.Pairwise (·.1 < ·.1)) :
    FieldMap.decoder.Reads fs.toJson fs := by
  rw [FieldMap.toJson_eq]
  exact @dict_reads _ _ (fun vs => .arr (vs.map FieldValue.toJson)) _
    (fun _ _ => list_reads fun v _ => ⟨v.toJson_opens, v.decoder_reads⟩) hs

namespace SubPayload

theorem listJson_eq : ∀ ss : List SubPayload, listJson ss = ss.map toJson
  | [] => rfl
  | s :: ss => by rw [listJson, listJson_eq ss, List.map_cons]

/-- The members a subdocument is written with: its reference when it has one, its fields, and
its subdocuments when it has some. -/
theorem toJson_mk (r : Option String) (fs : FieldMap) (ss : List SubPayload) :
    (mk r fs ss).toJson = .obj ((r.map fun x => [("reference", Value.str x)]).getD [] ++
      [("fields", fs.toJson)] ++
      if ss.isEmpty then [] else [("subdocuments", .arr (ss.map toJson))]) := by
  cases r <;> rw [toJson, listJson_eq] <;> rfl

theorem toJson_opens (s : SubPayload) : s.toJson.Opens := by
  obtain ⟨r, fs, ss⟩ := s
  rw [toJson_mk]
  exact Value.opens_obj _

/-- A subdocument whose field maps, its own and those of the subdocuments under it, have
increasing names, as the maps a task carries do. -/
inductive Sorted : SubPayload → Prop
  | mk {reference : Option String} {fields : FieldMap} {subdocuments : List SubPayload} :
      fields.Pairwise (·.1 < ·.1) → (∀ s ∈ subdocuments, Sorted s) →
      Sorted (.mk reference fields subdocuments)

/-- A sorted subdocument is read back from its wire form, as long as the nesting allowed is
above its own and the decoder's fuel is not below the nesting allowed. -/
theorem decoder_readsAt : ∀ (fuel depth : Nat) (s : SubPayload), s.Sorted →
    s.toJson.depth < depth → depth ≤ fuel → (decoder fuel).ReadsAt depth s.toJson s
  | 0, _, _, _, hd, hf => absurd hf (by omega)
  | fuel + 1, depth, .mk r fs ss, .mk hfs hss, hd, hf => by
    rw [toJson_mk] at hd ⊢
    have hfields := Value.depth_lt_of_mem_obj (show ("fields", fs.toJson) ∈ _ by simp) hd
    have h2 : 2 ≤ depth := by
      have : 0 < fs.toJson.depth := by rw [FieldMap.toJson_eq]; exact Nat.succ_pos _
      omega
    unfold decoder
    refine record_readsAt_of_eq (r.map some, some fs, if ss.isEmpty then none else some ss) h2
      (.append (r.map some, some fs, none) (.append (r.map some, none, none) ?_ ?_) ?_) rfl ?_
    · cases r with
      | none => exact .nil _
      | some x => exact .cons_map rfl rfl (optional_string_readsAt _ x) (.nil _)
    · exact .cons_map rfl rfl (FieldMap.decoder_reads hfs _ hfields) (.nil _)
    · refine .unlessEmpty rfl rfl (by cases ss.isEmpty <;> rfl) fun hne => ?_
      exact list_readsAt_of_mem "subdocuments" (by simp [hne]) hd fun x hx hxd =>
        ⟨toJson_opens x, decoder_readsAt fuel _ x (hss x hx) hxd (by omega)⟩
    · cases r <;> cases ss <;> rfl

end SubPayload

namespace Payload

/-- A task's document whose maps, down to those of its deepest subdocument, have increasing
names, as the maps a task carries do. -/
structure Sorted (p : Payload) : Prop where
  fields : p.fields.Pairwise (·.1 < ·.1)
  customData : p.customData.Pairwise (·.1 < ·.1)
  subdocuments : ∀ s ∈ p.subdocuments, s.Sorted

/-- The members a task's document is written with: its fields, its custom data, and its
subdocuments when it has some. -/
theorem toJson_eq (p : Payload) : p.toJson = .obj ([("fields", p.fields.toJson),
    ("customData", .obj (p.customData.map fun kv => (kv.1, .str kv.2)))] ++
    if p.subdocuments.isEmpty then [] else
      [("subdocuments", .arr (p.subdocuments.map SubPayload.toJson))]) := by
  rw [Payload.toJson, SubPayload.listJson_eq]

/-- A sorted document that nests less than the reader allows is read back from its wire form. -/
theorem decoder_readsAt {p : Payload} (hp : p.Sorted) (hd : p.toJson.depth < Cursor.depthLimit) :
    decoder.ReadsAt Cursor.depthLimit p.toJson p := by
  obtain ⟨fs, cd, ss⟩ := p
  obtain ⟨hfs, hcd, hss⟩ := hp
  rw [toJson_eq] at hd ⊢
  have hfields := Value.depth_lt_of_mem_obj (show ("fields", fs.toJson) ∈ _ by simp) hd
  have hcustom := Value.depth_lt_of_mem_obj
    (show ("customData", .obj (cd.map fun kv => (kv.1, .str kv.2))) ∈ _ by simp) hd
  unfold decoder
  refine record_readsAt_of_eq (some fs, some cd, if ss.isEmpty then none else some ss) (by decide)
    (.append (some fs, some cd, none) ?_ ?_) rfl ?_
  · exact .cons_map rfl rfl (FieldMap.decoder_reads hfs _ hfields)
      (.cons_map rfl rfl (dict_reads (fun kv _ => string_reads kv.2) hcd _ hcustom) (.nil _))
  · refine .unlessEmpty rfl rfl (by cases ss.isEmpty <;> rfl) fun hne => ?_
    exact list_readsAt_of_mem "subdocuments" (by simp [hne]) hd fun x hx hxd =>
      ⟨x.toJson_opens, SubPayload.decoder_readsAt _ _ x (hss x hx) hxd (by decide)⟩
  · cases ss <;> rfl

end Payload

theorem Codec.json_decode (bs : Bytes) :
    Codec.json.decode bs = (Payload.decoder.readBytes bs).mapError .codec := rfl

/-- The JSON codec reads a task's data back as the document it was written from, when its maps
are sorted and its text nests less than the reader allows. -/
theorem Codec.json_decode_toJson {p : Payload} (hp : p.Sorted)
    (hd : p.toJson.depth < Json.Cursor.depthLimit) :
    Codec.json.decode (Utf8.encode p.toJson.render) = .ok p := by
  rw [Codec.json_decode, readBytes_of_readsAt (Payload.decoder_readsAt hp hd)]
  rfl

/-- A list read from a member written only when the list is not empty. -/
theorem getD_unlessEmpty {α : Type} (xs : List α) :
    (if xs.isEmpty then none else some xs).getD [] = xs := by
  cases xs <;> rfl

theorem getD_map_some {α : Type} (o : Option α) : (o.map some).getD none = o := by
  cases o <;> rfl

namespace Failure

theorem depth_toJson (f : Failure) : f.toJson.depth = 1 := by
  obtain ⟨i, m⟩ := f
  cases i <;> cases m <;> rfl

/-- A failure is read back from its wire form, each part present or not. -/
theorem decoder_reads (f : Failure) : decoder.Reads f.toJson f := by
  intro depth hdepth
  rw [depth_toJson] at hdepth
  obtain ⟨i, m⟩ := f
  unfold decoder
  refine record_readsAt_of_eq (i.map some, m.map some) hdepth (.append (i.map some, none) ?_ ?_)
    rfl ?_
  · cases i with
    | none => exact .nil _
    | some x => exact .cons_map rfl rfl (optional_string_readsAt _ x) (.nil _)
  · cases m with
    | none => exact .nil _
    | some x => exact .cons_map rfl rfl (optional_string_readsAt _ x) (.nil _)
  · simp only [getD_map_some]

/-- A list of failures is read back from its wire form. -/
theorem list_decoder_reads (fs : List Failure) : (list decoder).Reads (.arr (fs.map toJson)) fs :=
  list_reads fun f _ => ⟨Value.opens_obj _, f.decoder_reads⟩

end Failure

theorem Action.pick_name (a : Action) :
    pick [("add", .add), ("replace", .replace)] a.name = .ok a := by
  cases a <;> rfl

/-- A change is read back from its wire form. -/
theorem Change.decoder_reads (c : Change) : Change.decoder.Reads c.toJson c := by
  intro depth hdepth
  obtain ⟨a, vs⟩ := c
  have hvalues := Value.depth_lt_of_mem_obj
    (show ("values", .arr (vs.map FieldValue.toJson)) ∈ _ by simp) hdepth
  have h2 : 2 ≤ depth := by
    have := Value.depth_arr_pos (vs.map FieldValue.toJson)
    omega
  unfold Change.decoder
  exact record_readsAt_of_eq (some a, some vs) h2
    (.cons_map rfl rfl (choice_reads a.pick_name _ (show 0 < depth - 1 by omega))
      (.cons_map rfl rfl (list_reads (fun v _ => ⟨v.toJson_opens, v.decoder_reads⟩) _ hvalues)
        (.nil _))) rfl rfl

theorem ChangeMap.toJson_eq (cs : ChangeMap) :
    cs.toJson = .obj (cs.map fun kv => (kv.1, kv.2.toJson)) :=
  rfl

/-- A change map whose names increase is read back from its wire form. -/
theorem ChangeMap.decoder_reads {cs : ChangeMap} (hs : cs.Pairwise (·.1 < ·.1)) :
    ChangeMap.decoder.Reads cs.toJson cs := by
  rw [ChangeMap.toJson_eq]
  exact dict_reads (fun kv _ => kv.2.decoder_reads) hs

namespace SubPatch

theorem listJson_eq : ∀ ss : List SubPatch, listJson ss = ss.map toJson
  | [] => rfl
  | s :: ss => by rw [listJson, listJson_eq ss, List.map_cons]

/-- The members a subdocument's patch is written with: its position, its reference when it has
one, then what it reports. -/
theorem toJson_mk (i : Nat) (r : Option String) (cs : ChangeMap) (fs : List Failure)
    (ss : List SubPatch) : (mk i r cs fs ss).toJson = .obj ([("index", Value.ofNat i)] ++
      (r.map fun x => [("reference", Value.str x)]).getD [] ++
      reportMembers cs fs (ss.map toJson)) := by
  rw [toJson, listJson_eq]

theorem toJson_opens (s : SubPatch) : s.toJson.Opens := by
  obtain ⟨i, r, cs, fs, ss⟩ := s
  rw [toJson_mk]
  exact Value.opens_obj _

/-- A subdocument's patch whose positions fit 64 bits and whose change maps have increasing
names, down to the deepest subdocument, as those of a result are. -/
inductive WellFormed : SubPatch → Prop
  | mk {index : Nat} {reference : Option String} {changes : ChangeMap} {failures : List Failure}
      {subdocuments : List SubPatch} :
      index ≤ Cursor.u64Max → changes.Pairwise (·.1 < ·.1) →
      (∀ s ∈ subdocuments, WellFormed s) →
      WellFormed (.mk index reference changes failures subdocuments)

/-- A well-formed subdocument's patch is read back from its wire form, as long as the nesting
allowed is above its own and the decoder's fuel is not below the nesting allowed. -/
theorem decoder_readsAt : ∀ (fuel depth : Nat) (s : SubPatch), s.WellFormed →
    s.toJson.depth < depth → depth ≤ fuel → (decoder fuel).ReadsAt depth s.toJson s
  | 0, _, _, _, hd, hf => absurd hf (by omega)
  | fuel + 1, depth, .mk i r cs fs ss, .mk hi hcs hss, hd, hf => by
    rw [toJson_mk] at hd ⊢
    have h2 : 2 ≤ depth := by
      have := Value.depth_lt_of_mem_obj (show ("index", Value.ofNat i) ∈ _ by simp) hd
      omega
    unfold decoder reportMembers
    rw [List.isEmpty_map]
    refine record_readsAt_of_eq (some i, r.map some, if cs.isEmpty then none else some cs,
        if fs.isEmpty then none else some fs, if ss.isEmpty then none else some ss) h2
      (.append (some i, r.map some, none, none, none)
        (.append (some i, none, none, none, none) ?_ ?_)
        (.append (some i, r.map some, if cs.isEmpty then none else some cs,
            if fs.isEmpty then none else some fs, none)
          (.append (some i, r.map some, if cs.isEmpty then none else some cs, none, none)
            ?_ ?_) ?_))
      rfl ?_
    · exact .cons_map rfl rfl (usize_readsAt hi _) (.nil _)
    · cases r with
      | none => exact .nil _
      | some x => exact .cons_map rfl rfl (optional_string_readsAt _ x) (.nil _)
    · refine .unlessEmpty rfl rfl (by cases cs.isEmpty <;> rfl) fun hne => ?_
      exact ChangeMap.decoder_reads hcs _ (Value.depth_lt_of_mem_obj
        (show ("fieldChanges", cs.toJson) ∈ _ by simp [reportMembers, hne]) hd)
    · refine .unlessEmpty rfl rfl (by cases fs.isEmpty <;> rfl) fun hne => ?_
      exact Failure.list_decoder_reads fs _ (Value.depth_lt_of_mem_obj
        (show ("failures", Value.arr (fs.map Failure.toJson)) ∈ _ by simp [reportMembers, hne])
        hd)
    · refine .unlessEmpty rfl rfl (by cases ss.isEmpty <;> rfl) fun hne => ?_
      exact list_readsAt_of_mem "subdocuments" (by simp [reportMembers, hne]) hd fun x hx hxd =>
        ⟨toJson_opens x, decoder_readsAt fuel _ x (hss x hx) hxd (by omega)⟩
    · simp only [getD_unlessEmpty, getD_map_some, Option.getD_some]

end SubPatch

namespace Patch

/-- A patch whose change maps have increasing names and whose subdocument positions fit 64
bits, down to the deepest subdocument, as those of a result are. -/
structure WellFormed (p : Patch) : Prop where
  changes : p.changes.Pairwise (·.1 < ·.1)
  subdocuments : ∀ s ∈ p.subdocuments, s.WellFormed

theorem toJson_eq (p : Patch) :
    p.toJson = .obj (reportMembers p.changes p.failures (p.subdocuments.map SubPatch.toJson)) := by
  rw [Patch.toJson, SubPatch.listJson_eq]

/-- A well-formed patch that nests less than the reader allows is read back from its wire
form. -/
theorem decoder_readsAt {p : Patch} (hp : p.WellFormed) (hd : p.toJson.depth < Cursor.depthLimit) :
    decoder.ReadsAt Cursor.depthLimit p.toJson p := by
  obtain ⟨cs, fs, ss⟩ := p
  obtain ⟨hcs, hss⟩ := hp
  rw [toJson_eq] at hd ⊢
  unfold decoder reportMembers
  rw [List.isEmpty_map]
  refine record_readsAt_of_eq (if cs.isEmpty then none else some cs,
      if fs.isEmpty then none else some fs, if ss.isEmpty then none else some ss) (by decide)
    (.append (if cs.isEmpty then none else some cs, if fs.isEmpty then none else some fs, none)
      (.append (if cs.isEmpty then none else some cs, none, none) ?_ ?_) ?_) rfl ?_
  · refine .unlessEmpty rfl rfl (by cases cs.isEmpty <;> rfl) fun hne => ?_
    exact ChangeMap.decoder_reads hcs _ (Value.depth_lt_of_mem_obj
      (show ("fieldChanges", cs.toJson) ∈ _ by simp [reportMembers, hne]) hd)
  · refine .unlessEmpty rfl rfl (by cases fs.isEmpty <;> rfl) fun hne => ?_
    exact Failure.list_decoder_reads fs _ (Value.depth_lt_of_mem_obj
      (show ("failures", Value.arr (fs.map Failure.toJson)) ∈ _ by simp [reportMembers, hne]) hd)
  · refine .unlessEmpty rfl rfl (by cases ss.isEmpty <;> rfl) fun hne => ?_
    exact list_readsAt_of_mem "subdocuments" (by simp [reportMembers, hne]) hd fun x hx hxd =>
      ⟨x.toJson_opens, SubPatch.decoder_readsAt _ _ x (hss x hx) hxd (by decide)⟩
  · simp only [getD_unlessEmpty]

end Patch

theorem Codec.json_encode (p : Patch) : Codec.json.encode p = .ok (Utf8.encode p.toJson.render) :=
  rfl

/-- The JSON codec writes a patch as a text that reads back as the same patch, when its maps
are sorted, its positions fit 64 bits and its text nests less than the reader allows. -/
theorem Codec.json_encode_reads {p : Patch} (hp : p.WellFormed)
    (hd : p.toJson.depth < Json.Cursor.depthLimit) :
    ∃ bs, Codec.json.encode p = .ok bs ∧ Patch.decoder.readBytes bs = .ok p :=
  ⟨_, Codec.json_encode p, readBytes_of_readsAt (Patch.decoder_readsAt hp hd)⟩

/-- The JSON codec's round trip: a task's document is read back from the text it is written
as, and a patch is written as a text read back as the same patch, for maps with increasing
names (as a task's and a result's are), positions that fit 64 bits, and texts that nest less
than the reader allows. -/
theorem Codec.json_round_trip (p : Payload) (r : Patch) (hp : p.Sorted)
    (hpd : p.toJson.depth < Json.Cursor.depthLimit) (hr : r.WellFormed)
    (hrd : r.toJson.depth < Json.Cursor.depthLimit) :
    Codec.json.decode (Utf8.encode p.toJson.render) = .ok p ∧
      ∃ bs, Codec.json.encode r = .ok bs ∧ Patch.decoder.readBytes bs = .ok r :=
  ⟨Codec.json_decode_toJson hp hpd, Codec.json_encode_reads hr hrd⟩

/-- A task with values in the three encodings, one of them with quotes, a line break and a
letter outside ASCII, custom data and a subdocument with a reference; and a result with changes
under both actions, failures with one part each and a subdocument's patch. -/
theorem Codec.json_round_trip_sample :
    let p : Payload :=
      { fields := [("body", [⟨"say \"hé\"\n", .utf8⟩, ⟨"aGk=", .base64⟩]),
          ("link", [⟨"ref-1", .storageRef⟩])]
        customData := [("lang", "en")]
        subdocuments := [.mk (some "page-1") [("title", [⟨"x", .utf8⟩])] []] }
    let r : Patch :=
      { changes := [("body", ⟨.replace, [⟨"hello", .utf8⟩]⟩)]
        failures := [{ id? := some "E1" }, { message? := some "bad" }]
        subdocuments :=
          [.mk 0 (some "page-1") [("title", ⟨.add, [⟨"eQ==", .base64⟩]⟩)] [] []] }
    p.Sorted ∧ p.toJson.depth < Json.Cursor.depthLimit ∧ r.WellFormed ∧
      r.toJson.depth < Json.Cursor.depthLimit ∧
      Codec.json.decode (Utf8.encode p.toJson.render) = .ok p ∧
        ∃ bs, Codec.json.encode r = .ok bs ∧ Patch.decoder.readBytes bs = .ok r := by
  intro p r
  have hp : p.Sorted := by
    refine ⟨by decide, by decide, fun s hs => ?_⟩
    obtain rfl : s = .mk (some "page-1") [("title", [⟨"x", .utf8⟩])] [] := by simpa [p] using hs
    exact .mk (by simp) (by simp)
  have hr : r.WellFormed := by
    refine ⟨by simp [r], fun s hs => ?_⟩
    obtain rfl :
        s = .mk 0 (some "page-1") [("title", ⟨.add, [⟨"eQ==", .base64⟩]⟩)] [] [] := by
      simpa [r] using hs
    exact .mk (by decide) (by simp) (by simp)
  have hpd : p.toJson.depth < Json.Cursor.depthLimit := by decide
  have hrd : r.toJson.depth < Json.Cursor.depthLimit := by decide
  exact ⟨hp, hpd, hr, hrd, Codec.json_round_trip p r hp hpd hr hrd⟩

namespace SubPayload

/-- `k + 1` subdocuments with no fields, each but the last holding the next. -/
def chain : Nat → SubPayload
  | 0 => .mk none [] []
  | k + 1 => .mk none [] [chain k]

theorem toJson_chain_zero : (chain 0).toJson = .obj [("fields", FieldMap.toJson [])] := by
  rw [chain, toJson_mk]
  rfl

theorem toJson_chain_succ (k : Nat) : (chain (k + 1)).toJson =
    .obj [("fields", FieldMap.toJson []), ("subdocuments", .arr [(chain k).toJson])] := by
  rw [chain, toJson_mk]
  rfl

/-- Each subdocument of a chain adds an object and an array around the next. -/
theorem depth_toJson_chain : ∀ k, (chain k).toJson.depth = 2 * k + 2
  | 0 => by rw [toJson_chain_zero]; rfl
  | k + 1 => by
    rw [toJson_chain_succ]
    simp only [Value.depth, Value.membersDepth, Value.itemsDepth, depth_toJson_chain k]
    simp [FieldMap.toJson, Value.depth, Value.membersDepth]
    omega

theorem chain_sorted : ∀ k, (chain k).Sorted
  | 0 => .mk .nil (by simp)
  | k + 1 => .mk .nil (by simpa using chain_sorted k)

/-- Fields written as `{}` are refused where no level of nesting is left for them. -/
theorem fields_refusesAt {depth : Nat} (hd : depth ≤ 1) :
    (FieldMap.decoder.map fun fs (s : Option (Option String) × Option FieldMap ×
      Option (List SubPayload)) => (s.1, some fs, s.2.2)).RefusesAt depth (FieldMap.toJson []) :=
  map_refusesAt (dict_refusesAt_shallow hd [])

/-- A chain of subdocuments is refused where its text nests at least as deep as the reader
allows. -/
theorem chain_refusesAt : ∀ (k fuel depth : Nat), depth ≤ 2 * k + 2 →
    (decoder fuel).RefusesAt depth (chain k).toJson
  | _, 0, _, _ => exhausted_refusesAt _ _ _
  | 0, fuel + 1, depth, hd => by
    rw [toJson_chain_zero]
    unfold decoder
    rcases Nat.lt_or_ge depth 2 with h1 | h2
    · exact record_refusesAt_shallow (by omega) _
    · exact record_refusesAt [] h2 (.nil _) rfl rfl (fields_refusesAt (by omega))
  | k + 1, fuel + 1, depth, hd => by
    rw [toJson_chain_succ]
    unfold decoder
    rcases Nat.lt_or_ge depth 2 with h1 | h2
    · exact record_refusesAt_shallow (by omega) _
    rcases Nat.lt_or_ge depth 3 with h2' | h3
    · exact record_refusesAt [] h2 (.nil _) rfl rfl (fields_refusesAt (by omega))
    · refine record_refusesAt [("fields", FieldMap.toJson [])] h2
        (.cons_map rfl rfl (FieldMap.decoder_reads .nil _ (show 1 < depth - 1 by omega)) (.nil _))
        rfl rfl ?_
      exact map_refusesAt (f := fun ss (s : Option (Option String) × Option FieldMap ×
          Option (List SubPayload)) => (s.1, s.2.1, some ss))
        (list_refusesAt [] (by omega) (toJson_opens _)
          (chain_refusesAt k fuel (depth - 1 - 1) (by omega)))

end SubPayload

namespace Payload

/-- A task's document with nothing in it but a chain of `k + 1` subdocuments. -/
def nested (k : Nat) : Payload := { subdocuments := [SubPayload.chain k] }

theorem toJson_nested (k : Nat) : (nested k).toJson = .obj [("fields", FieldMap.toJson []),
    ("customData", .obj []), ("subdocuments", .arr [(SubPayload.chain k).toJson])] := by
  rw [toJson_eq]
  rfl

/-- The text of `k + 1` nested subdocuments nests `2 * k + 4` levels. -/
theorem depth_toJson_nested (k : Nat) : (nested k).toJson.depth = 2 * k + 4 := by
  rw [toJson_nested]
  simp only [Value.depth, Value.membersDepth, Value.itemsDepth, SubPayload.depth_toJson_chain k]
  simp [FieldMap.toJson, Value.depth, Value.membersDepth]

theorem nested_sorted (k : Nat) : (nested k).Sorted :=
  ⟨.nil, .nil, by simpa [nested] using SubPayload.chain_sorted k⟩

/-- A task whose subdocuments nest 63 deep or more is refused: its text nests 128 levels or
more. -/
theorem decode_nested_refused {k : Nat} (hk : 62 ≤ k) :
    ∃ e, Codec.json.decode (Utf8.encode (nested k).toJson.render) = .error e := by
  have hrefused : decoder.RefusesAt Cursor.depthLimit (nested k).toJson := by
    rw [toJson_nested]
    unfold decoder
    refine record_refusesAt [("fields", FieldMap.toJson []), ("customData", .obj [])] (by decide)
      (.cons_map rfl rfl (FieldMap.decoder_reads .nil _ (by decide))
        (.cons_map rfl rfl (dict_reads (d := string) (g := Value.str) (by simp) .nil _ (by decide))
          (.nil _))) rfl rfl ?_
    exact map_refusesAt (f := fun ss (s : Option FieldMap × Option (List (String × String)) ×
        Option (List SubPayload)) => (s.1, s.2.1, some ss))
      (list_refusesAt [] (by decide) (SubPayload.toJson_opens _)
        (SubPayload.chain_refusesAt k _ _ (show Cursor.depthLimit - 1 - 1 ≤ 2 * k + 2 by
          rw [show Cursor.depthLimit = 128 from rfl]; omega)))
  obtain ⟨e, he⟩ := readBytes_of_refusesAt hrefused
  exact ⟨.codec e, by rw [Codec.json_decode, he]; rfl⟩

/-- The round trip of a task holds for subdocuments nested up to 62 deep and stops there. -/
theorem decode_nested_iff (k : Nat) :
    Codec.json.decode (Utf8.encode (nested k).toJson.render) = .ok (nested k) ↔ k ≤ 61 := by
  constructor
  · intro h
    by_contra hk
    obtain ⟨e, he⟩ := decode_nested_refused (k := k) (by omega)
    rw [he] at h
    cases h
  · intro hk
    exact Codec.json_decode_toJson (nested_sorted k)
      (by rw [depth_toJson_nested, show Cursor.depthLimit = 128 from rfl]; omega)

/-- A task with 63 nested subdocuments and nothing else is refused although it is sorted: its
text nests 128 levels, one more than the reader allows. -/
theorem sixty_three_nested_refused :
    (nested 62).Sorted ∧ (nested 62).toJson.depth = Cursor.depthLimit ∧
      Codec.json.decode (Utf8.encode (nested 62).toJson.render) ≠ .ok (nested 62) :=
  ⟨nested_sorted 62, depth_toJson_nested 62,
    fun h => absurd ((decode_nested_iff 62).1 h) (by decide)⟩

end Payload

end DocBatch
