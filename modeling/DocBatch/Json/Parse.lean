import DocBatch.Json.Token

/-!
# Reading a JSON value

`Value.parse` reads one JSON value from text, blanks allowed around it, and refuses anything
after it. Arrays and objects may nest 127 deep; the 128th open bracket is refused. Object
members keep their written order, duplicates included.

The same separators serve every reader of JSON text, and are gathered here:
`nextItem` decides whether an array has another item, `nextKey` whether an object has
another member, `colon` takes the colon after a key, and `closeList` and `closeObject` take
the closing bracket.
-/

namespace DocBatch

namespace Json

namespace Cursor

/-- Whether an array has another item: `first` tells whether one was read already. -/
def nextItem (first : Bool) (c : Cursor) : Except DecodeError (Bool × Cursor) :=
  let c := c.skipBlank
  match c.rest with
  | [] => .error (c.failAhead .eofList)
  | b :: _ =>
    if b = 93 then .ok (false, c)
    else if first then .ok (true, c)
    else if b = 44 then
      let c := c.bump.skipBlank
      match c.rest with
      | [] => .error (c.failAhead .eofValue)
      | b :: _ => if b = 93 then .error (c.failAhead .trailingComma) else .ok (true, c)
    else .error (c.failAhead .expectedListCommaOrEnd)

/-- Takes the closing bracket of an array whose items were all read. -/
def closeList (c : Cursor) : Except DecodeError Cursor :=
  let c := c.skipBlank
  match c.rest with
  | [] => .error (c.failAhead .eofList)
  | b :: _ =>
    if b = 93 then .ok c.bump
    else if b = 44 then
      let c := c.bump.skipBlank
      match c.rest with
      | 93 :: _ => .error (c.failAhead .trailingComma)
      | _ => .error (c.failAhead .trailingCharacters)
    else .error (c.failAhead .trailingCharacters)

/-- The key of a member, its opening quote next. -/
def key (c : Cursor) : Except DecodeError (Option String × Cursor) :=
  match c.rest with
  | [] => .error (c.failAhead .eofValue)
  | b :: _ =>
    if b = 34 then (string c.bump).map fun (k, c) => (some k, c)
    else if b = 125 then .error (c.failAhead .trailingComma)
    else .error (c.failAhead .keyMustBeAString)

/-- Whether an object has another member; if so, its key is read. -/
def nextKey (first : Bool) (c : Cursor) : Except DecodeError (Option String × Cursor) :=
  let c := c.skipBlank
  match c.rest with
  | [] => .error (c.failAhead .eofObject)
  | b :: _ =>
    if b = 125 then .ok (none, c)
    else if b = 44 && !first then key c.bump.skipBlank
    else if first then key c
    else .error (c.failAhead .expectedObjectCommaOrEnd)

/-- Takes the colon after a key. -/
def colon (c : Cursor) : Except DecodeError Cursor :=
  let c := c.skipBlank
  match c.rest with
  | [] => .error (c.failAhead .eofObject)
  | b :: _ => if b = 58 then .ok c.bump else .error (c.failAhead .expectedColon)

/-- Takes the closing brace of an object whose members were all read. -/
def closeObject (c : Cursor) : Except DecodeError Cursor :=
  let c := c.skipBlank
  match c.rest with
  | [] => .error (c.failAhead .eofObject)
  | b :: _ =>
    if b = 125 then .ok c.bump
    else if b = 44 then .error (c.failAhead .trailingComma)
    else .error (c.failAhead .trailingCharacters)

/-- Where the reading stands after an object was closed early, its members not all read:
blanks skipped, and the closing brace taken if it comes next. A record places there a fault
of its own, as opposed to a fault of a value inside it. -/
def closingAttempted (c : Cursor) : Cursor :=
  match c.closeObject with
  | .ok c => c
  | .error _ => c.skipBlank

/-- Refuses anything but blanks after the value. -/
def finish (c : Cursor) : Except DecodeError Unit :=
  let c := c.skipBlank
  match c.rest with
  | [] => .ok ()
  | _ => .error (c.failAhead .trailingCharacters)

/-- The nesting allowed at the top: 127 open brackets. -/
def depthLimit : Nat := 128

/-- Opens one more level of nesting, or refuses it. -/
def deeper (depth : Nat) (c : Cursor) : Except DecodeError Nat :=
  if depth ≤ 1 then .error (c.failAhead .recursionLimitExceeded) else .ok (depth - 1)

mutual
/-- Reads one value. Each call takes at least one octet, so `fuel` set to the length of the
text suffices; `depth` is the nesting still allowed. -/
def value : Nat → Nat → Cursor → Except DecodeError (Value × Cursor)
  | 0, _, c => .error (c.failAhead .eofValue)
  | fuel + 1, depth, c => do
    let c := c.skipBlank
    match c.rest with
    | [] => throw (c.failAhead .eofValue)
    | b :: _ =>
      if b = 110 then return (.null, ← word c.bump ull)
      else if b = 116 then return (.bool true, ← word c.bump rue)
      else if b = 102 then return (.bool false, ← word c.bump alse)
      else if b = 45 then
        let (n, c) ← number false c.bump
        return (.num n, c)
      else if isDigit b then
        let (n, c) ← number true c
        return (.num n, c)
      else if b = 34 then
        let (s, c) ← string c.bump
        return (.str s, c)
      else if b = 91 then
        let d ← deeper depth c
        let (xs, c) ← items fuel d true [] c.bump
        return (.arr xs, ← closeList c)
      else if b = 123 then
        let d ← deeper depth c
        let (ms, c) ← members fuel d true [] c.bump
        return (.obj ms, ← closeObject c)
      else throw (c.failAhead .expectedValue)

/-- Reads the items of an array up to its closing bracket (not taken). -/
def items : Nat → Nat → Bool → List Value → Cursor → Except DecodeError (List Value × Cursor)
  | 0, _, _, acc, c => .ok (acc.reverse, c)
  | fuel + 1, depth, first, acc, c => do
    let (more, c) ← nextItem first c
    if more then
      let (v, c) ← value fuel depth c
      items fuel depth false (v :: acc) c
    else return (acc.reverse, c)

/-- Reads the members of an object up to its closing brace (not taken). -/
def members : Nat → Nat → Bool → List (String × Value) → Cursor →
    Except DecodeError (List (String × Value) × Cursor)
  | 0, _, _, acc, c => .ok (acc.reverse, c)
  | fuel + 1, depth, first, acc, c => do
    let (key, c) ← nextKey first c
    match key with
    | none => return (acc.reverse, c)
    | some k =>
      let c ← colon c
      let (v, c) ← value fuel depth c
      members fuel depth false ((k, v) :: acc) c
end

end Cursor

/-- Reads one JSON value from octets, blanks allowed around it. -/
def Value.parseBytes (bs : Bytes) : Except DecodeError Value := do
  let c := Cursor.ofBytes bs
  let (v, c) ← Cursor.value (bs.length + 1) Cursor.depthLimit c
  Cursor.finish c
  return v

/-- Reads one JSON value from a text. -/
def Value.parse (s : String) : Except DecodeError Value := Value.parseBytes (Utf8.encode s)

end Json

end DocBatch
