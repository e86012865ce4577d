import DocBatch.Json.Cursor
import DocBatch.Json.Value

/-!
# Tokens of JSON text

The pieces a JSON reader takes one at a time: the words `null`, `true` and `false`, string
literals, numbers, and whole values skipped without building them.

* A string is read up to its closing quote. Escapes are decoded; `\u` escapes of the two
  halves of a surrogate pair make one character, and a half standing alone is refused. A
  control octet inside the quotes is refused. The octets read must be UTF-8, which is
  checked once the closing quote is taken.
* An integer that fits 64 bits, unsigned, or signed when negative, stays an integer (a
  negative zero is a double). Anything else is a double, assembled as the significand's
  first digits (those that fit 64 bits) scaled by a power of ten, one rounded product or
  quotient per step; a result past the largest double is refused.
* Skipping checks the syntax of a value, any depth, but neither decodes its strings nor
  computes its numbers.
-/

namespace DocBatch

namespace Json

namespace Cursor

/-- True for an ASCII digit. -/
def isDigit (b : UInt8) : Bool := 48 ≤ b.toNat && b.toNat ≤ 57

/-- The value of an ASCII digit. -/
def digit (b : UInt8) : Nat := b.toNat - 48

/-- Takes the given octets of a word whose first octet was already taken. -/
def word (c : Cursor) : List UInt8 → Except DecodeError Cursor
  | [] => .ok c
  | w :: ws =>
    match c.rest with
    | [] => .error (c.fail .eofValue)
    | b :: _ => if b = w then word c.bump ws else .error (c.bump.fail .expectedIdent)

/-- The octets of the rest of `ull`, `rue` and `alse`. -/
def ull : List UInt8 := [117, 108, 108]
def rue : List UInt8 := [114, 117, 101]
def alse : List UInt8 := [97, 108, 115, 101]

/-! ## Strings -/

/-- The value of a hexadecimal digit. -/
def hexValue? (b : UInt8) : Option Nat :=
  let n := b.toNat
  if 48 ≤ n && n ≤ 57 then some (n - 48)
  else if 65 ≤ n && n ≤ 70 then some (n - 55)
  else if 97 ≤ n && n ≤ 102 then some (n - 87)
  else none

/-- Four hexadecimal digits after `\u`. -/
def hexEscape (c : Cursor) : Except DecodeError (Nat × Cursor) :=
  match c.rest with
  | a :: b :: d :: e :: _ =>
    let c' := c.bump.bump.bump.bump
    match hexValue? a, hexValue? b, hexValue? d, hexValue? e with
    | some x, some y, some z, some w => .ok (x * 4096 + y * 256 + z * 16 + w, c')
    | _, _, _, _ => .error (c'.fail .invalidEscape)
  | rest =>
    let c' := rest.foldl (fun c _ => c.bump) c
    .error (c'.fail .eofString)

/-- The UTF-8 octets of a code point below U+110000. -/
def codePoint (n : Nat) : Bytes := Utf8.encodeChar (Char.ofNat n)

/-- Decodes a `\u` escape whose `u` was taken, pairing surrogate halves. -/
def unicodeEscape (c : Cursor) : Except DecodeError (Bytes × Cursor) := do
  let (n, c) ← hexEscape c
  if 0xDC00 ≤ n && n ≤ 0xDFFF then throw (c.fail .loneLeadingSurrogate)
  if n < 0xD800 || n > 0xDBFF then return (codePoint n, c)
  match c.rest with
  | [] => throw (c.fail .eofString)
  | b :: _ =>
    if b ≠ 92 then throw (c.bump.fail .unexpectedEndOfHexEscape)
    let c := c.bump
    match c.rest with
    | [] => throw (c.fail .eofString)
    | b :: _ =>
      if b ≠ 117 then throw (c.bump.fail .unexpectedEndOfHexEscape)
      let (n2, c) ← hexEscape c.bump
      if n2 < 0xDC00 || n2 > 0xDFFF then throw (c.fail .loneLeadingSurrogate)
      return (codePoint (((n - 0xD800) * 1024 + (n2 - 0xDC00)) + 0x10000), c)

/-- Decodes one escape whose backslash was taken. -/
def escape (c : Cursor) : Except DecodeError (Bytes × Cursor) :=
  match c.rest with
  | [] => .error (c.fail .eofString)
  | b :: _ =>
    let c := c.bump
    match b.toNat with
    | 34 => .ok ([34], c)
    | 92 => .ok ([92], c)
    | 47 => .ok ([47], c)
    | 98 => .ok ([8], c)
    | 102 => .ok ([12], c)
    | 110 => .ok ([10], c)
    | 114 => .ok ([13], c)
    | 116 => .ok ([9], c)
    | 117 => unicodeEscape c
    | _ => .error (c.fail .invalidEscape)

/-- The fault of a run of octets written as they are, the run starting at `start`: its first
octet that does not continue a UTF-8 prefix, placed at that octet's own column. -/
def runFault? (start : Cursor) (run : Bytes) : Option DecodeError :=
  (Utf8.fault? 0 run).map fun f =>
    ⟨.malformed .invalidUnicodeCodePoint, some ⟨start.line, start.index + f.validUpTo + 1 - start.lineStart⟩⟩

/-- The octets of a string literal whose opening quote was taken, up to and with the
closing quote. The octets between escapes are written as they are, and each such run must be
UTF-8: it is checked where it ends, at an escape or at the closing quote. -/
def stringOctets (c : Cursor) : Except DecodeError (Bytes × Cursor) :=
  go c.rest.length [] c [] c
where
  /-- `acc` holds the octets before the current run, `run` the octets of the current run,
  which started at `start`, both last first; each step takes at least one octet. -/
  go : Nat → Bytes → Cursor → Bytes → Cursor → Except DecodeError (Bytes × Cursor)
    | 0, _, _, _, c => .error (c.fail .eofString)
    | fuel + 1, acc, start, run, c =>
      match c.rest with
      | [] => .error (c.fail .eofString)
      | b :: _ =>
        if b = 34 then
          match runFault? start run.reverse with
          | some e => .error e
          | none => .ok ((run ++ acc).reverse, c.bump)
        else if b = 92 then
          match runFault? start run.reverse with
          | some e => .error e
          | none =>
            match escape c.bump with
            | .ok (bs, c') => go fuel (bs.reverse ++ run ++ acc) c' [] c'
            | .error e => .error e
        else if b.toNat < 0x20 then .error (c.bump.fail .controlCharacter)
        else go fuel acc start (b :: run) c.bump

/-- The text of a string literal whose opening quote was taken. -/
def string (c : Cursor) : Except DecodeError (String × Cursor) := do
  let (bs, c) ← stringOctets c
  match Utf8.decode? bs with
  | some s => return (s, c)
  | none => throw ⟨.malformed .invalidUnicodeCodePoint, some ⟨c.line, c.index - c.lineStart - 1⟩⟩

/-- Skips one escape whose backslash was taken; `\u` needs four hexadecimal digits only. -/
def skipEscape (c : Cursor) : Except DecodeError Cursor :=
  match c.rest with
  | [] => .error (c.fail .eofString)
  | b :: _ =>
    let c := c.bump
    match b.toNat with
    | 34 | 92 | 47 | 98 | 102 | 110 | 114 | 116 => .ok c
    | 117 => (hexEscape c).map (·.2)
    | _ => .error (c.fail .invalidEscape)

/-- Skips a string literal whose opening quote was taken. -/
def skipString (c : Cursor) : Except DecodeError Cursor :=
  go c.rest.length c
where
  /-- Each step takes at least one octet. -/
  go : Nat → Cursor → Except DecodeError Cursor
    | 0, c => .error (c.fail .eofString)
    | fuel + 1, c =>
      match c.rest with
      | [] => .error (c.fail .eofString)
      | b :: _ =>
        if b = 34 then .ok c.bump
        else if b = 92 then
          match skipEscape c.bump with
          | .ok c' => go fuel c'
          | .error e => .error e
        else if b.toNat < 0x20 then .error (c.bump.fail .controlCharacter)
        else go fuel c.bump

/-! ## Numbers -/

/-- The largest unsigned 64-bit integer. -/
def u64Max : Nat := Nat.pow 2 64 - 1

/-- The largest signed 32-bit integer. -/
def i32Max : Int := Int.pow 2 31 - 1

/-- `10^i` as the nearest double. -/
def pow10 (i : Nat) : Binary64 := (Binary64.ofNat (Nat.pow 10 i)).getD Binary64.zero

/-- `significand * 10^exponent` by rounded steps, as described above; `none` when it
overflows. -/
def fromParts (positive : Bool) (significand : Nat) (exponent : Int) : Option Binary64 := do
  let start ← Binary64.ofNat significand
  let f ← go 8 start exponent
  return if positive then f else f.neg
where
  /-- Divides by `10^308` while the power is out of the table's reach; `fuel` bounds the
  steps, and a value that reaches zero stops them. -/
  go : Nat → Binary64 → Int → Option Binary64
    | 0, f, _ => some f
    | fuel + 1, f, e =>
      if e.natAbs ≤ 308 then
        if e ≥ 0 then Binary64.mul f (pow10 e.toNat) else Binary64.div f (pow10 e.natAbs)
      else if f.isZero then some f
      else if e ≥ 0 then none
      else do
        let f' ← Binary64.div f (pow10 308)
        go fuel f' (e + 308)

/-- A double from its parts, or the out-of-range fault at the cursor. -/
def float (c : Cursor) (positive : Bool) (significand : Nat) (exponent : Int) : Except DecodeError (Number × Cursor) :=
  match fromParts positive significand exponent with
  | some f => .ok (.float f, c)
  | none => .error (c.fail .numberOutOfRange)

/-- Clamps to the signed 32-bit range. -/
def clamp32 (i : Int) : Int := max (-(Int.pow 2 31)) (min i i32Max)

/-- The exponent part, its `e` not yet taken. -/
def exponentPart (positive : Bool) (significand : Nat) (start : Int) (c : Cursor) :
    Except DecodeError (Number × Cursor) :=
  let c := c.bump
  let (positiveExp, c) :=
    match c.peek? with
    | some 43 => (true, c.bump)
    | some 45 => (false, c.bump)
    | _ => (true, c)
  match c.rest with
  | [] => .error (c.fail .eofValue)
  | b :: _ =>
    let c := c.bump
    if !isDigit b then .error (c.fail .invalidNumber)
    else go c.rest.length (digit b) c positiveExp
where
  /-- Reads further digits; an exponent past the 32-bit range ends the number. -/
  go : Nat → Nat → Cursor → Bool → Except DecodeError (Number × Cursor)
    | 0, e, c, positiveExp =>
      float c positive significand (clamp32 (if positiveExp then start + e else start - e))
    | fuel + 1, e, c, positiveExp =>
      match c.peek? with
      | some b =>
        if isDigit b then
          let c := c.bump
          if (e * 10 + digit b : Int) > i32Max then
            if significand ≠ 0 && positiveExp then .error (c.fail .numberOutOfRange)
            else
              let c := skipDigits c
              .ok (.float (if positive then Binary64.zero else Binary64.zero.neg), c)
          else go fuel (e * 10 + digit b) c positiveExp
        else float c positive significand (clamp32 (if positiveExp then start + e else start - e))
      | none => float c positive significand (clamp32 (if positiveExp then start + e else start - e))
  /-- Skips digits. -/
  skipDigits (c : Cursor) : Cursor :=
    (c.rest.takeWhile isDigit).foldl (fun c _ => c.bump) c

/-- Skips digits. -/
def skipDigits (c : Cursor) : Cursor :=
  (c.rest.takeWhile isDigit).foldl (fun c _ => c.bump) c

/-- The fraction part, its point not yet taken. -/
def fractionPart (positive : Bool) (significand : Nat) (before : Int) (c : Cursor) :
    Except DecodeError (Number × Cursor) :=
  go c.rest.length significand 0 c.bump
where
  /-- Reads fraction digits while the significand fits 64 bits. -/
  go : Nat → Nat → Int → Cursor → Except DecodeError (Number × Cursor)
    | 0, s, after, c => finish s after c
    | fuel + 1, s, after, c =>
      match c.peek? with
      | some b =>
        if isDigit b then
          if s * 10 + digit b > u64Max then
            let c := skipDigits c
            match c.peek? with
            | some 101 | some 69 => exponentPart positive s (before + after) c
            | _ => float c positive s (before + after)
          else go fuel (s * 10 + digit b) (after - 1) c.bump
        else finish s after c
      | none => finish s after c
  /-- After the fraction digits: at least one is required. -/
  finish (s : Nat) (after : Int) (c : Cursor) : Except DecodeError (Number × Cursor) :=
    if after = 0 then
      match c.peek? with
      | some _ => .error (c.failAhead .invalidNumber)
      | none => .error (c.failAhead .eofValue)
    else
      match c.peek? with
      | some 101 | some 69 => exponentPart positive s (before + after) c
      | _ => float c positive s (before + after)

/-- What follows the integer digits: a fraction, an exponent, or the end of the number. -/
def numberTail (positive : Bool) (significand : Nat) (c : Cursor) : Except DecodeError (Number × Cursor) :=
  match c.peek? with
  | some 46 => fractionPart positive significand 0 c
  | some 101 | some 69 => exponentPart positive significand 0 c
  | _ =>
    if positive then .ok (.int significand, c)
    else if 0 < significand && significand ≤ Nat.pow 2 63 then .ok (.int (-(significand : Int)), c)
    else float c false significand 0

/-- Integer digits past 64 bits: each one counts as a power of ten. -/
def longInteger (positive : Bool) (significand : Nat) (c : Cursor) : Except DecodeError (Number × Cursor) :=
  go c.rest.length 0 c
where
  /-- Counts the digits dropped. -/
  go : Nat → Int → Cursor → Except DecodeError (Number × Cursor)
    | 0, e, c => float c positive significand e
    | fuel + 1, e, c =>
      match c.peek? with
      | some b =>
        if isDigit b then go fuel (e + 1) c.bump
        else if b = 46 then fractionPart positive significand e c
        else if b = 101 || b = 69 then exponentPart positive significand e c
        else float c positive significand e
      | none => float c positive significand e

/-- A number whose sign, if any, was taken. -/
def number (positive : Bool) (c : Cursor) : Except DecodeError (Number × Cursor) :=
  match c.rest with
  | [] => .error (c.fail .eofValue)
  | b :: _ =>
    let c := c.bump
    if b = 48 then
      match c.peek? with
      | some d => if isDigit d then .error (c.failAhead .invalidNumber) else numberTail positive 0 c
      | none => numberTail positive 0 c
    else if isDigit b then go c.rest.length (digit b) c
    else .error (c.fail .invalidNumber)
where
  /-- Integer digits while they fit 64 bits. -/
  go : Nat → Nat → Cursor → Except DecodeError (Number × Cursor)
    | 0, s, c => numberTail positive s c
    | fuel + 1, s, c =>
      match c.peek? with
      | some d =>
        if isDigit d then
          if s * 10 + digit d > u64Max then longInteger positive s c
          else go fuel (s * 10 + digit d) c.bump
        else numberTail positive s c
      | none => numberTail positive s c

/-- Skips an exponent part, its `e` not yet taken. -/
def skipExponent (c : Cursor) : Except DecodeError Cursor :=
  let c := c.bump
  let c := match c.peek? with
    | some 43 | some 45 => c.bump
    | _ => c
  match c.rest with
  | b :: _ => if isDigit b then .ok (skipDigits c.bump) else .error (c.bump.fail .invalidNumber)
  | [] => .error (c.fail .invalidNumber)

/-- Skips a number whose sign, if any, was taken. -/
def skipNumber (c : Cursor) : Except DecodeError Cursor := do
  let c ← match c.rest with
    | [] => throw (c.fail .invalidNumber)
    | b :: _ =>
      if b = 48 then
        match c.bump.peek? with
        | some d => if isDigit d then throw (c.bump.failAhead .invalidNumber) else pure c.bump
        | none => pure c.bump
      else if isDigit b then pure (skipDigits c.bump)
      else throw (c.bump.fail .invalidNumber)
  match c.peek? with
  | some 46 =>
    let c := c.bump
    match c.peek? with
    | some d =>
      if isDigit d then
        let c := skipDigits c
        match c.peek? with
        | some 101 | some 69 => skipExponent c
        | _ => pure c
      else throw (c.failAhead .invalidNumber)
    | none => throw (c.failAhead .invalidNumber)
  | some 101 | some 69 => skipExponent c
  | _ => pure c

/-! ## Skipping a whole value -/

/-- Before the next member of an object: its key and colon. Before an array element:
nothing. -/
def memberKey (frame : UInt8) (c : Cursor) : Except DecodeError Cursor := do
  if frame = 123 then
    let c := c.skipBlank
    let c ← match c.rest with
      | [] => throw (c.failAhead .eofValue)
      | b :: _ => if b = 34 then skipString c.bump else throw (c.failAhead .keyMustBeAString)
    let c := c.skipBlank
    match c.rest with
    | [] => throw (c.failAhead .eofObject)
    | b :: _ => if b = 58 then pure c.bump else throw (c.failAhead .expectedColon)
  else pure c

/-- The start of a value: a scalar is skipped whole (`none`), a bracket is taken and
returned. -/
def valueStart (c : Cursor) : Except DecodeError (Option UInt8 × Cursor) := do
  let c := c.skipBlank
  match c.rest with
  | [] => throw (c.failAhead .eofValue)
  | b :: _ =>
    if b = 110 then do let c ← word c.bump ull; pure (none, c)
    else if b = 116 then do let c ← word c.bump rue; pure (none, c)
    else if b = 102 then do let c ← word c.bump alse; pure (none, c)
    else if b = 45 then do let c ← skipNumber c.bump; pure (none, c)
    else if isDigit b then do let c ← skipNumber c; pure (none, c)
    else if b = 34 then do let c ← skipString c.bump; pure (none, c)
    else if b = 91 || b = 123 then pure (some b, c.bump)
    else throw (c.failAhead .expectedValue)

mutual
/-- Skips values from the start of one; `enclosing` is the innermost open bracket and
`stack` the ones around it. Each step takes at least one octet, so `fuel` set to the
length of the text suffices. -/
def skipFrom : Nat → Option UInt8 → List UInt8 → Cursor → Except DecodeError Cursor
  | 0, _, _, c => .error (c.fail .eofValue)
  | fuel + 1, enclosing, stack, c => do
    let (opened, c) ← valueStart c
    match opened with
    | some frame =>
      let stack := match enclosing with
        | some e => e :: stack
        | none => stack
      skipAfter fuel false frame stack c
    | none =>
      match enclosing with
      | some frame => skipAfter fuel true frame stack c
      | none =>
        match stack with
        | frame :: stack => skipAfter fuel true frame stack c
        | [] => pure c

/-- After an element of `frame` (or just after its opening bracket when `acceptComma` is
false): a comma, or the closing brackets of this and enclosing frames. -/
def skipAfter : Nat → Bool → UInt8 → List UInt8 → Cursor → Except DecodeError Cursor
  | 0, _, _, _, c => .error (c.fail .eofValue)
  | fuel + 1, acceptComma, frame, stack, c => do
    let c := c.skipBlank
    match c.rest with
    | [] => throw (c.failAhead (if frame = 91 then .eofList else .eofObject))
    | b :: _ =>
      if b = 44 && acceptComma then
        let c ← memberKey frame c.bump
        skipFrom fuel (some frame) stack c
      else if (b = 93 && frame = 91) || (b = 125 && frame = 123) then
        match stack with
        | outerFrame :: stack => skipAfter fuel true outerFrame stack c.bump
        | [] => pure c.bump
      else if acceptComma then
        throw (c.failAhead (if frame = 91 then .expectedListCommaOrEnd else .expectedObjectCommaOrEnd))
      else
        let c ← memberKey frame c
        skipFrom fuel (some frame) stack c
end

/-- Skips one value and everything nested in it, checking its syntax only. -/
def skipValue (c : Cursor) : Except DecodeError Cursor :=
  skipFrom (2 * c.rest.length + 2) none [] c

end Cursor

end Json

end DocBatch
