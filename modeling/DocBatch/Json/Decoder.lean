import DocBatch.Json.Parse

/-!
# Typed reading of JSON

A `Decoder α` reads values of type `α` two ways: from JSON text, stopping at the first fault
in reading order and placing it at a line and column, and from a JSON value already read,
seen as a dictionary (members sorted by key, the last of equal keys kept), whose faults have
no position.

Decoders are built from a few forms:
* `string`, `integer` (within bounds, named as the type is named in messages), `optional`
  (`null` is `none`), `list` and `dict` (an object read as a dictionary, the last of equal
  keys kept);
* `choice` for a value that is one of several names, written as a string (or as an object
  of one member whose value is `null`);
* `record` for an object with named fields, each filled by its own decoder; unknown members
  are skipped, a field given twice is refused, and a field missing from the object is an
  error only if it is required. A record may also be written as an array of its fields in
  order, where missing trailing fields are taken as missing and extra items are refused.

When a value has the wrong kind, the fault names what was found (`null`, `integer 5`,
`string "x"`, …) and what the decoder expects.
-/

namespace DocBatch

namespace Json

/-- Reads values of type `α` from JSON text and from JSON values. -/
structure Decoder (α : Type) where
  /-- What the decoder expects, as messages name it. -/
  expecting : String
  /-- Reads from text; the first argument is the nesting still allowed. -/
  text : Nat → Cursor → Except DecodeError (α × Cursor)
  /-- Reads from a value in its dictionary view. -/
  value : Value → Except DecodeError α

/-- The kind of a value, as messages name it. -/
def Value.found : Value → Found
  | .null => .null
  | .bool b => .bool b
  | .num (.int i) => .int i
  | .num (.float x) => .float x
  | .str s => .str s
  | .arr _ => .seq
  | .obj _ => .map

/-- A fault without position. -/
def DecodeError.bare (f : Fault) : DecodeError := ⟨f, none⟩

namespace Cursor

/-- The fault for a value of the wrong kind at the cursor: the value's start is read to name
what was found (a malformed start gives its own syntax fault instead), and the fault is
placed after what was read. -/
def mismatch (c : Cursor) (expected : String) : DecodeError :=
  let wrong (f : Found) (c : Cursor) : DecodeError := ⟨.wrongType f expected, some c.here⟩
  match c.rest with
  | [] => c.failAhead .expectedValue
  | b :: _ =>
    if b = 110 then
      match word c.bump ull with
      | .ok c => wrong .null c
      | .error e => e
    else if b = 116 then
      match word c.bump rue with
      | .ok c => wrong (.bool true) c
      | .error e => e
    else if b = 102 then
      match word c.bump alse with
      | .ok c => wrong (.bool false) c
      | .error e => e
    else if b = 45 || isDigit b then
      match number (b ≠ 45) (if b = 45 then c.bump else c) with
      | .ok (.int i, c) => wrong (.int i) c
      | .ok (.float x, c) => wrong (.float x) c
      | .error e => e
    else if b = 34 then
      match string c.bump with
      | .ok (s, c) => wrong (.str s) c
      | .error e => e
    else if b = 91 then wrong .seq c
    else if b = 123 then wrong .map c
    else c.failAhead .expectedValue

end Cursor

namespace Decoder

variable {α β σ : Type}

/-- Applies a function to what a decoder reads. -/
def map (f : α → β) (d : Decoder α) : Decoder β where
  expecting := d.expecting
  text depth c := (d.text depth c).map fun (a, c) => (f a, c)
  value v := (d.value v).map f

/-- A decoder that always fails with the nesting fault: what a recursive type uses once its
nesting budget is spent. -/
def exhausted (expecting : String) : Decoder α where
  expecting := expecting
  text _ c := .error (c.skipBlank.failAhead .recursionLimitExceeded)
  value _ := .error (.bare (.malformed .recursionLimitExceeded))

/-- A string. -/
def string : Decoder String where
  expecting := "a string"
  text _ c :=
    let c := c.skipBlank
    match c.rest with
    | [] => .error (c.failAhead .eofValue)
    | b :: _ => if b = 34 then Cursor.string c.bump else .error (c.mismatch "a string")
  value
    | .str s => .ok s
    | v => .error (.bare (.wrongType v.found "a string"))

/-- Checks that an integer lies within bounds. -/
def inRange (name : String) (lo hi : Int) (n : Number) : Except Fault Int :=
  match n with
  | .int i => if lo ≤ i && i ≤ hi then .ok i else .error (.wrongValue (.int i) name)
  | .float x => .error (.wrongType (.float x) name)

/-- An integer between `lo` and `hi`; `name` is the type's name in messages. -/
def integer (name : String) (lo hi : Int) : Decoder Int where
  expecting := name
  text _ c :=
    let c := c.skipBlank
    match c.rest with
    | [] => .error (c.failAhead .eofValue)
    | b :: _ =>
      if b = 45 || Cursor.isDigit b then
        match Cursor.number (b ≠ 45) (if b = 45 then c.bump else c) with
        | .ok (n, c) =>
          match inRange name lo hi n with
          | .ok i => .ok (i, c)
          | .error f => .error ⟨f, some c.here⟩
        | .error e => .error e
      else .error (c.mismatch name)
  value
    | .num n => (inRange name lo hi n).mapError DecodeError.bare
    | v => .error (.bare (.wrongType v.found name))

/-- Unsigned integers of 32 bits. -/
def u32 : Decoder Nat := (integer "u32" 0 (Int.pow 2 32 - 1)).map Int.toNat

/-- Unsigned integers of 64 bits. -/
def u64 : Decoder Nat := (integer "u64" 0 (Int.pow 2 64 - 1)).map Int.toNat

/-- Sizes: unsigned integers of 64 bits. -/
def usize : Decoder Nat := (integer "usize" 0 (Int.pow 2 64 - 1)).map Int.toNat

/-- Signed integers of 32 bits. -/
def i32 : Decoder Int := integer "i32" (-(Int.pow 2 31)) (Int.pow 2 31 - 1)

/-- Signed integers of 64 bits. -/
def i64 : Decoder Int := integer "i64" (-(Int.pow 2 63)) (Int.pow 2 63 - 1)

/-- `null` reads as `none`; anything else as the inner decoder reads it. -/
def optional (d : Decoder α) : Decoder (Option α) where
  expecting := "option"
  text depth c :=
    let c := c.skipBlank
    match c.rest with
    | 110 :: _ => (Cursor.word c.bump Cursor.ull).map fun c => (none, c)
    | _ => (d.text depth c).map fun (a, c) => (some a, c)
  value
    | .null => .ok none
    | v => (d.value v).map some

/-- The items of an array read from text, up to the closing bracket (not taken). -/
def itemsText (d : Decoder α) (depth : Nat) : Nat → Bool → List α → Cursor →
    Except DecodeError (List α × Cursor)
  | 0, _, acc, c => .ok (acc.reverse, c)
  | fuel + 1, first, acc, c => do
    let (more, c) ← c.nextItem first
    if more then
      let (a, c) ← d.text depth c
      itemsText d depth fuel false (a :: acc) c
    else return (acc.reverse, c)

/-- Reads each value of a list. -/
def itemsValue (d : Decoder α) : List Value → Except DecodeError (List α)
  | [] => .ok []
  | v :: vs => do
    let a ← d.value v
    let rest ← itemsValue d vs
    return a :: rest

/-- An array of values of one type. -/
def list (d : Decoder α) : Decoder (List α) where
  expecting := "a sequence"
  text depth c := do
    let c := c.skipBlank
    match c.rest with
    | [] => throw (c.failAhead .eofValue)
    | b :: _ =>
      if b = 91 then
        let depth ← Cursor.deeper depth c
        let (xs, c) ← itemsText d depth c.rest.length true [] c.bump
        return (xs, ← c.closeList)
      else throw (c.mismatch "a sequence")
  value
    | .arr items => itemsValue d items
    | v => .error (.bare (.wrongType v.found "a sequence"))

/-- The members of an object read from text as a dictionary, up to the closing brace (not
taken). -/
def entriesText (d : Decoder α) (depth : Nat) : Nat → Bool → List (String × α) → Cursor →
    Except DecodeError (List (String × α) × Cursor)
  | 0, _, acc, c => .ok (acc, c)
  | fuel + 1, first, acc, c => do
    let (key, c) ← c.nextKey first
    match key with
    | none => return (acc, c)
    | some k =>
      let c ← c.colon
      let (a, c) ← d.text depth c
      entriesText d depth fuel false (insertSorted k a acc) c

/-- Reads each member value of a dictionary. -/
def entriesValue (d : Decoder α) : List (String × Value) → Except DecodeError (List (String × α))
  | [] => .ok []
  | (k, v) :: rest => do
    let a ← d.value v
    let tail ← entriesValue d rest
    return (k, a) :: tail

/-- An object read as a dictionary from names to values of one type, sorted by name. -/
def dict (d : Decoder α) : Decoder (List (String × α)) where
  expecting := "a map"
  text depth c := do
    let c := c.skipBlank
    match c.rest with
    | [] => throw (c.failAhead .eofValue)
    | b :: _ =>
      if b = 123 then
        let depth ← Cursor.deeper depth c
        let (xs, c) ← entriesText d depth c.rest.length true [] c.bump
        return (xs, ← c.closeObject)
      else throw (c.mismatch "a map")
  value
    | .obj members => entriesValue d (sortMembers members)
    | v => .error (.bare (.wrongType v.found "a map"))

/-- The value named `name` among the variants. -/
def pick (variants : List (String × α)) (name : String) : Except Fault α :=
  match variants.find? (·.1 == name) with
  | some (_, a) => .ok a
  | none => .error (.unknownVariant name (variants.map (·.1)))

/-- One of several names: written as a string, or as an object of one member whose key is
the name and whose value is `null`. -/
def choice (variants : List (String × α)) : Decoder α where
  expecting := "string or map"
  text depth c := do
    let c := c.skipBlank
    match c.rest with
    | [] => throw (c.failAhead .eofValue)
    | b :: _ =>
      if b = 34 then
        let (s, c) ← Cursor.string c.bump
        match pick variants s with
        | .ok a => return (a, c)
        | .error f => throw ⟨f, some c.here⟩
      else if b = 123 then
        let _ ← Cursor.deeper depth c
        let c := c.bump.skipBlank
        let (name, c) ← match c.rest with
          | 34 :: _ => Cursor.string c.bump
          | [] => throw (c.failAhead .eofValue)
          | _ => throw (c.mismatch "variant identifier")
        let a ← match pick variants name with
          | .ok a => pure a
          | .error f => throw ⟨f, some c.here⟩
        let c ← c.colon
        let c := c.skipBlank
        let c ← match c.rest with
          | 110 :: _ => Cursor.word c.bump Cursor.ull
          | [] => throw (c.failAhead .eofValue)
          | _ => throw (c.mismatch "unit")
        let c := c.skipBlank
        match c.rest with
        | 125 :: _ => return (a, c.bump)
        | [] => throw (c.fail .eofObject)
        | _ => throw (c.fail .expectedValue)
      else throw (c.failAhead .expectedValue)
  value
    | .str s => (pick variants s).mapError DecodeError.bare
    | .obj [(name, v)] => do
      let a ← (pick variants name).mapError DecodeError.bare
      match v with
      | .null => return a
      | v => throw (.bare (.wrongType v.found "unit"))
    | .obj _ => .error (.bare (.wrongValue .map "map with a single key"))
    | v => .error (.bare (.wrongType v.found "string or map"))

/-- One field of a record: its key, whether it may be missing from an object and from an
array, whether the builder has it already, and the decoder that stores it. -/
structure Slot (σ : Type) where
  key : String
  required : Bool := false
  requiredInArray : Bool := false
  isSet : σ → Bool
  read : Decoder (σ → σ)

/-- The first required field the builder lacks. -/
def firstMissing (slots : List (Slot σ)) (s : σ) : Option String :=
  (slots.find? fun slot => slot.required && !slot.isSet s).map (·.key)

/-- The members of a record object read from text, up to its closing brace (not taken). A
key met twice stops the reading. -/
def fieldsText (slots : List (Slot σ)) (depth : Nat) : Nat → Bool → σ → Cursor →
    Except DecodeError (σ × Cursor)
  | 0, _, s, c => .ok (s, c)
  | fuel + 1, first, s, c => do
    let (key, c) ← c.nextKey first
    match key with
    | none => return (s, c)
    | some k =>
      match slots.find? (·.key == k) with
      | some slot =>
        if slot.isSet s then throw ⟨.duplicateField k, some c.closingAttempted.here⟩
        let c ← c.colon
        let (set, c) ← slot.read.text depth c
        fieldsText slots depth fuel false (set s) c
      | none =>
        let c ← c.colon
        let c ← Cursor.skipValue c
        fieldsText slots depth fuel false s c

/-- The items of a record array read from text, one per field in order. A required field
without an item stops the reading with its fault, the cursor left before the closing
bracket. -/
def arrayText (name : String) (count : Nat) (depth : Nat) :
    List (Slot σ) → Nat → Bool → σ → Cursor → Except DecodeError (Except Fault σ × Cursor)
  | [], _, _, s, c => .ok (.ok s, c)
  | slot :: rest, i, first, s, c => do
    let (more, c) ← c.nextItem first
    if more then
      let (set, c) ← slot.read.text depth c
      arrayText name count depth rest (i + 1) false (set s) c
    else if slot.requiredInArray then
      return (.error (.wrongLength i ("struct " ++ name ++ " with " ++ toString count ++ " elements")), c)
    else arrayText name count depth rest (i + 1) first s c

/-- The members of a record object read from a value. -/
def fieldsValue (slots : List (Slot σ)) : σ → List (String × Value) → Except DecodeError σ
  | s, [] => .ok s
  | s, (k, v) :: rest =>
    match slots.find? (·.key == k) with
    | some slot => do
      let set ← slot.read.value v
      fieldsValue slots (set s) rest
    | none => fieldsValue slots s rest

/-- The items of a record array read from a value, one per field in order. -/
def arrayValue (name : String) (count : Nat) :
    List (Slot σ) → Nat → σ → List Value → Except DecodeError (σ × List Value)
  | [], _, s, vs => .ok (s, vs)
  | slot :: rest, i, s, v :: vs => do
    let set ← slot.read.value v
    arrayValue name count rest (i + 1) (set s) vs
  | slot :: rest, i, s, [] =>
    if slot.requiredInArray then
      .error (.bare (.wrongLength i ("struct " ++ name ++ " with " ++ toString count ++ " elements")))
    else arrayValue name count rest (i + 1) s []

/-- A record named `name` with the given fields, built from `init` and finished by `build`
once every required field is present. A missing field is reported after the closing
bracket or brace. -/
def record (name : String) (slots : List (Slot σ)) (init : σ) (build : σ → α) : Decoder α where
  expecting := "struct " ++ name
  text depth c := do
    let c := c.skipBlank
    match c.rest with
    | [] => throw (c.failAhead .eofValue)
    | b :: _ =>
      if b = 123 then
        let depth' ← Cursor.deeper depth c
        let (s, c) ← fieldsText slots depth' c.rest.length true init c.bump
        let c' ← c.closeObject
        match firstMissing slots s with
        | some k => throw ⟨.missingField k, some c'.here⟩
        | none => return (build s, c')
      else if b = 91 then
        let depth' ← Cursor.deeper depth c
        let (r, c) ← arrayText name slots.length depth' slots 0 true init c.bump
        let c' ← c.closeList
        match r with
        | .error f => throw ⟨f, some c'.here⟩
        | .ok s => return (build s, c')
      else throw (c.mismatch ("struct " ++ name))
  value
    | .obj members => do
      let s ← fieldsValue slots init (sortMembers members)
      match firstMissing slots s with
      | some k => throw (.bare (.missingField k))
      | none => return build s
    | .arr items => do
      let (s, extra) ← arrayValue name slots.length slots 0 init items
      if extra.isEmpty then return build s
      else throw (.bare (.wrongLength items.length "fewer elements in array"))
    | v => .error (.bare (.wrongType v.found ("struct " ++ name)))

/-- Reads a value of the decoder's type from octets, blanks allowed around it. -/
def readBytes (d : Decoder α) (bs : Bytes) : Except DecodeError α := do
  let (a, c) ← d.text Cursor.depthLimit (Cursor.ofBytes bs)
  Cursor.finish c
  return a

/-- Reads a value of the decoder's type from a JSON value. -/
def readValue (d : Decoder α) (v : Value) : Except DecodeError α := d.value v

end Decoder

end Json

end DocBatch
