import DocBatch.Text.Utf8

/-!
# Standard base64

The alphabet `A–Z a–z 0–9 + /` with `=` padding. Writing always pads to a multiple of four
symbols. Reading is strict: padding is required, the last symbol may carry no bits beyond
the encoded octets, and the first fault met is the one reported, in this order: a stray
final symbol when the length leaves one symbol over, any symbol outside the alphabet in the
complete groups before the last, then within the last group a misplaced `=`, a bad symbol,
a lone symbol, a wrong amount of padding, and finally unused bits in the last symbol.
-/

namespace DocBatch

namespace Base64

/-- The symbol of a sextet (`v < 64`). -/
def symbol (v : Nat) : UInt8 :=
  if v < 26 then (65 + v).toUInt8
  else if v < 52 then (97 + (v - 26)).toUInt8
  else if v < 62 then (48 + (v - 52)).toUInt8
  else if v = 62 then 43 else 47

/-- The sextet a symbol stands for; `none` outside the alphabet (padding included). -/
def sextet? (b : UInt8) : Option Nat :=
  let n := b.toNat
  if 65 ≤ n && n ≤ 90 then some (n - 65)
  else if 97 ≤ n && n ≤ 122 then some (n - 97 + 26)
  else if 48 ≤ n && n ≤ 57 then some (n - 48 + 52)
  else if n = 43 then some 62
  else if n = 47 then some 63
  else none

/-- The padding symbol `=`. -/
def pad : UInt8 := 61

/-- Why a text is no base64. Offsets count octets from the start of the text. -/
inductive DecodeError where
  /-- A symbol outside the alphabet, or padding where none may stand. -/
  | invalidByte (offset : Nat) (byte : UInt8)
  /-- One symbol left over after the complete groups. -/
  | invalidLength (length : Nat)
  /-- The last symbol carries bits that no octet uses. -/
  | invalidLastSymbol (offset : Nat) (byte : UInt8)
  /-- The last group is not padded to four symbols. -/
  | invalidPadding
  deriving Repr, DecidableEq

/-- The text of a decoding fault. -/
def DecodeError.message : DecodeError → String
  | .invalidByte offset byte => s!"Invalid symbol {byte}, offset {offset}."
  | .invalidLength length => s!"Invalid input length: {length}"
  | .invalidLastSymbol offset byte => s!"Invalid last symbol {byte}, offset {offset}."
  | .invalidPadding => "Invalid padding"

/-- Four symbols for three octets; fewer octets are padded. -/
def encodeBytes : Bytes → Bytes
  | [] => []
  | [a] =>
    let n := a.toNat * 65536
    [symbol (n / 262144), symbol (n / 4096 % 64), pad, pad]
  | [a, b] =>
    let n := a.toNat * 65536 + b.toNat * 256
    [symbol (n / 262144), symbol (n / 4096 % 64), symbol (n / 64 % 64), pad]
  | a :: b :: c :: rest =>
    let n := a.toNat * 65536 + b.toNat * 256 + c.toNat
    symbol (n / 262144) :: symbol (n / 4096 % 64) :: symbol (n / 64 % 64) :: symbol (n % 64)
      :: encodeBytes rest

/-- The base64 text of octets. -/
def encode (bs : Bytes) : String :=
  String.ofList ((encodeBytes bs).map fun b => Char.ofNat b.toNat)

/-- Decodes complete groups of four symbols, `offset` being the position of the first. -/
def decodeGroups (offset : Nat) : Bytes → Except DecodeError Bytes
  | a :: b :: c :: d :: rest => do
    let va ← (sextet? a).elim (.error (.invalidByte offset a)) .ok
    let vb ← (sextet? b).elim (.error (.invalidByte (offset + 1) b)) .ok
    let vc ← (sextet? c).elim (.error (.invalidByte (offset + 2) c)) .ok
    let vd ← (sextet? d).elim (.error (.invalidByte (offset + 3) d)) .ok
    let n := va * 262144 + vb * 4096 + vc * 64 + vd
    let tail ← decodeGroups (offset + 4) rest
    return (n / 65536).toUInt8 :: (n / 256 % 256).toUInt8 :: (n % 256).toUInt8 :: tail
  | _ => .ok []

/-- What the last group holds once read: its sextets, the padding after them, where the
padding starts, and the last symbol seen. -/
structure Tail where
  sextets : List Nat := []
  padding : Nat := 0
  firstPad : Nat := 0
  lastSymbol : UInt8 := 0

/-- Reads the last group (at most four symbols) starting at `offset`. -/
def readTail (offset : Nat) : Nat → Tail → Bytes → Except DecodeError Tail
  | _, t, [] => .ok t
  | i, t, b :: rest =>
    if b = pad then
      if i < 2 then .error (.invalidByte (offset + i) b)
      else
        let t := if t.padding = 0 then { t with firstPad := i } else t
        readTail offset (i + 1) { t with padding := t.padding + 1 } rest
    else if t.padding > 0 then .error (.invalidByte (offset + t.firstPad) pad)
    else match sextet? b with
      | none => .error (.invalidByte (offset + i) b)
      | some v => readTail offset (i + 1) { t with sextets := t.sextets ++ [v], lastSymbol := b } rest

/-- Octets of the last group, after the checks on length, padding and unused bits. -/
def decodeTail (whole : Nat) (offset : Nat) (rest : Bytes) : Except DecodeError Bytes := do
  let t ← readTail offset 0 {} rest
  let k := t.sextets.length
  if whole != 0 && k < 2 then throw (.invalidLength (offset + k))
  if (t.padding + k) % 4 != 0 then throw .invalidPadding
  let s := t.sextets ++ List.replicate (4 - k) 0
  let n := s.getD 0 0 * Nat.pow 2 26 + s.getD 1 0 * Nat.pow 2 20 + s.getD 2 0 * Nat.pow 2 14 + s.getD 3 0 * Nat.pow 2 8
  let octets := k * 6 / 8
  if n % Nat.pow 2 (32 - 8 * octets) != 0 then
    throw (.invalidLastSymbol (offset + k - 1) t.lastSymbol)
  return (List.range octets).map fun j => (n / Nat.pow 2 (24 - 8 * j) % 256).toUInt8

/-- Strict decoding of base64 octets. -/
def decodeBytes (input : Bytes) : Except DecodeError Bytes := do
  let n := input.length
  let rem := n % 4
  if rem = 1 then
    match input.getLast? with
    | some last =>
      if last != pad && (sextet? last).isNone then throw (.invalidByte (n - 1) last)
    | none => pure ()
  let groups := n - rem - (if rem = 0 then 4 else 0)
  let front ← decodeGroups 0 (input.take groups)
  let back ← decodeTail n groups (input.drop groups)
  return front ++ back

/-- Strict decoding of a base64 text. -/
def decode (s : String) : Except DecodeError Bytes := decodeBytes (Utf8.encode s)

end Base64

end DocBatch
