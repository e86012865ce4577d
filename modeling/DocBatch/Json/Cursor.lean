import DocBatch.Json.Fault
import DocBatch.Text.Utf8

/-!
# A reading position in JSON text

A cursor holds the octets not yet read and where they start: the number of octets read,
the current line and the offset at which that line starts. A fault found while reading is
placed either at the cursor itself (`here`: the octets read so far) or one octet ahead
(`ahead`), depending on whether the offending octet was taken; a newline taken moves to the
next line at column 0.

Main statement: `bump_index` (taking an octet advances the count by one).
-/

namespace DocBatch

namespace Json

/-- The unread octets of a text and the position where they start. -/
structure Cursor where
  rest : Bytes
  index : Nat := 0
  line : Nat := 1
  lineStart : Nat := 0
  deriving Repr

namespace Cursor

/-- A cursor at the start of a text. -/
def ofBytes (bs : Bytes) : Cursor := { rest := bs }

/-- The next octet, if any. -/
def peek? (c : Cursor) : Option UInt8 := c.rest.head?

/-- Takes one octet (none at the end). -/
def bump (c : Cursor) : Cursor :=
  match c.rest with
  | [] => c
  | b :: r =>
    if b = 10 then { rest := r, index := c.index + 1, line := c.line + 1, lineStart := c.index + 1 }
    else { c with rest := r, index := c.index + 1 }

/-- The position of the cursor. -/
def here (c : Cursor) : Position := ⟨c.line, c.index - c.lineStart⟩

/-- The position one octet further, or the cursor's at the end of the text. -/
def ahead (c : Cursor) : Position :=
  match c.rest with
  | [] => c.here
  | b :: _ => if b = 10 then ⟨c.line + 1, 0⟩ else ⟨c.line, c.index + 1 - c.lineStart⟩

/-- A syntax fault at the cursor. -/
def fail (c : Cursor) (s : Malformed) : DecodeError := ⟨.malformed s, some c.here⟩

/-- A syntax fault one octet ahead of the cursor. -/
def failAhead (c : Cursor) (s : Malformed) : DecodeError := ⟨.malformed s, some c.ahead⟩

/-- Gives a fault without position the position of the cursor. -/
def place (c : Cursor) (e : DecodeError) : DecodeError :=
  match e.pos with
  | none => { e with pos := some c.here }
  | some _ => e

/-- Blank octets: space, tab, line feed and carriage return. -/
def isBlank (b : UInt8) : Bool := b = 32 || b = 9 || b = 10 || b = 13

/-- Skips blanks. -/
def skipBlank (c : Cursor) : Cursor :=
  go c.rest.length c
where
  /-- `fuel` bounds the number of octets skipped. -/
  go : Nat → Cursor → Cursor
    | 0, c => c
    | fuel + 1, c =>
      match c.rest with
      | b :: _ => if isBlank b then go fuel c.bump else c
      | [] => c

/-- The next octet after blanks, with the cursor before it. -/
def peekPast (c : Cursor) : Option UInt8 × Cursor :=
  let c := c.skipBlank
  (c.peek?, c)

theorem bump_index (c : Cursor) (b : UInt8) (r : Bytes) (h : c.rest = b :: r) :
    c.bump.index = c.index + 1 := by
  simp only [bump, h]
  split <;> rfl

end Cursor

end Json

end DocBatch
