/-!
# UTF-8

Byte strings are lists of octets. `encode` writes the scalar values of a string as UTF-8;
`decode?` reads octets back and refuses every ill-formed sequence (overlong forms,
surrogates, values past U+10FFFF, truncated or stray continuation octets), following the
table of well-formed byte sequences of the Unicode standard. `decodeLossy` instead puts one
U+FFFD in place of each maximal ill-formed subpart, the substitution the standard
recommends.

Main statement: `encodeChar_length_le` (no scalar takes more than four octets).
-/

namespace DocBatch

/-- A byte string. -/
abbrev Bytes := List UInt8

/-- A scalar value is its own code point. -/
theorem Char.toNat_ofNat_of_valid {n : Nat} (hv : n.isValidChar) : (Char.ofNat n).toNat = n := by
  show (dite n.isValidChar (fun h => Char.ofNatAux n h) _).toNat = n
  rw [dif_pos hv]
  rfl

namespace Utf8

/-- The UTF-8 octets of one scalar value. -/
def encodeChar (c : Char) : Bytes :=
  let n := c.toNat
  if n < 0x80 then [n.toUInt8]
  else if n < 0x800 then [(0xC0 + n / 64).toUInt8, (0x80 + n % 64).toUInt8]
  else if n < 0x10000 then
    [(0xE0 + n / 4096).toUInt8, (0x80 + n / 64 % 64).toUInt8, (0x80 + n % 64).toUInt8]
  else
    [(0xF0 + n / 262144).toUInt8, (0x80 + n / 4096 % 64).toUInt8,
      (0x80 + n / 64 % 64).toUInt8, (0x80 + n % 64).toUInt8]

/-- The UTF-8 octets of a string. -/
def encode (s : String) : Bytes := s.toList.flatMap encodeChar

/-- Number of octets of a string in UTF-8. -/
def size (s : String) : Nat := (encode s).length

/-- A continuation octet `10xxxxxx`. -/
def isCont (b : UInt8) : Bool := 0x80 ≤ b.toNat && b.toNat ≤ 0xBF

/-- The range the second octet of a sequence must fall in, given its first octet, with the
length of the whole sequence; `none` for an octet that starts no sequence. -/
def secondRange (b : UInt8) : Option (Nat × Nat × Nat) :=
  let n := b.toNat
  if 0xC2 ≤ n && n ≤ 0xDF then some (0x80, 0xBF, 2)
  else if n = 0xE0 then some (0xA0, 0xBF, 3)
  else if 0xE1 ≤ n && n ≤ 0xEC then some (0x80, 0xBF, 3)
  else if n = 0xED then some (0x80, 0x9F, 3)
  else if 0xEE ≤ n && n ≤ 0xEF then some (0x80, 0xBF, 3)
  else if n = 0xF0 then some (0x90, 0xBF, 4)
  else if 0xF1 ≤ n && n ≤ 0xF3 then some (0x80, 0xBF, 4)
  else if n = 0xF4 then some (0x80, 0x8F, 4)
  else none

/-- The payload bits of a continuation octet. -/
def low6 (b : UInt8) : Nat := b.toNat % 64

/-- The scalar values of well-formed UTF-8, or `none`. -/
def decodeChars : Bytes → Option (List Char)
  | [] => some []
  | b0 :: rest =>
    if b0.toNat < 0x80 then (decodeChars rest).map (Char.ofNat b0.toNat :: ·)
    else match secondRange b0, rest with
      | some (lo, hi, 2), b1 :: r =>
        if lo ≤ b1.toNat && b1.toNat ≤ hi then
          (decodeChars r).map (Char.ofNat ((b0.toNat % 32) * 64 + low6 b1) :: ·)
        else none
      | some (lo, hi, 3), b1 :: b2 :: r =>
        if lo ≤ b1.toNat && b1.toNat ≤ hi && isCont b2 then
          (decodeChars r).map
            (Char.ofNat ((b0.toNat % 16) * 4096 + low6 b1 * 64 + low6 b2) :: ·)
        else none
      | some (lo, hi, 4), b1 :: b2 :: b3 :: r =>
        if lo ≤ b1.toNat && b1.toNat ≤ hi && isCont b2 && isCont b3 then
          (decodeChars r).map
            (Char.ofNat ((b0.toNat % 8) * 262144 + low6 b1 * 4096 + low6 b2 * 64 + low6 b3) :: ·)
        else none
      | _, _ => none

/-- Where octets stop being well-formed UTF-8: the number of octets before the fault, and
the length of the ill-formed sequence there, `none` when the octets end inside a sequence
that was going well. -/
structure Fault where
  validUpTo : Nat
  length : Option Nat
  deriving Repr, DecidableEq

/-- The text of a UTF-8 fault. -/
def Fault.message (f : Fault) : String :=
  match f.length with
  | some n => "invalid utf-8 sequence of " ++ toString n ++ " bytes from index " ++ toString f.validUpTo
  | none => "incomplete utf-8 byte sequence from index " ++ toString f.validUpTo

/-- How many of the octets after a sequence's first fit the expected ranges, looking at most
at `k`, and whether the octets ran out before `k` were seen. -/
def fitting (lo hi : Nat) : Nat → Bytes → Nat × Bool
  | 0, _ => (0, false)
  | _ + 1, [] => (0, true)
  | k + 1, b :: r =>
    if lo ≤ b.toNat && b.toNat ≤ hi then
      let (n, ended) := fitting 0x80 0xBF k r
      (n + 1, ended)
    else (0, false)

/-- The first fault of octets as UTF-8, counting from `at`; `none` when they are
well-formed. -/
def fault? (at_ : Nat) : Bytes → Option Fault
  | [] => none
  | b0 :: rest =>
    if b0.toNat < 0x80 then fault? (at_ + 1) rest
    else match secondRange b0 with
      | none => some ⟨at_, some 1⟩
      | some (lo, hi, k) =>
        match fitting lo hi (k - 1) rest with
        | (n, ended) =>
          if n = k - 1 then fault? (at_ + k) (rest.drop n)
          else if ended then some ⟨at_, none⟩
          else some ⟨at_, some (n + 1)⟩
termination_by bs => bs.length
decreasing_by
  all_goals simp only [List.length_cons, List.length_drop]
  all_goals omega

/-- The text of well-formed UTF-8, or `none`. -/
def decode? (bs : Bytes) : Option String := (decodeChars bs).map String.ofList

/-- True when the octets are well-formed UTF-8. -/
def isValid (bs : Bytes) : Bool := (decodeChars bs).isSome

/-- Octets of a sequence after its first, taken while they fit the expected ranges: the
maximal subpart that a replacement character stands for. -/
def takeSubpart (lo hi : Nat) : Nat → Bytes → Bytes
  | 0, bs => bs
  | _ + 1, [] => []
  | k + 1, b :: r => if lo ≤ b.toNat && b.toNat ≤ hi then takeSubpart 0x80 0xBF k r else b :: r

/-- Decoding that never fails: each maximal ill-formed subpart becomes U+FFFD. -/
def decodeLossyChars (bs : Bytes) : List Char :=
  go bs.length bs
where
  /-- `fuel` bounds the number of steps; each step takes at least one octet. -/
  go : Nat → Bytes → List Char
    | 0, _ => []
    | _, [] => []
    | fuel + 1, b0 :: rest =>
      if b0.toNat < 0x80 then Char.ofNat b0.toNat :: go fuel rest
      else match secondRange b0, rest with
        | some (lo, hi, 2), b1 :: r =>
          if lo ≤ b1.toNat && b1.toNat ≤ hi then
            Char.ofNat ((b0.toNat % 32) * 64 + low6 b1) :: go fuel r
          else '�' :: go fuel rest
        | some (lo, hi, 3), b1 :: b2 :: r =>
          if lo ≤ b1.toNat && b1.toNat ≤ hi && isCont b2 then
            Char.ofNat ((b0.toNat % 16) * 4096 + low6 b1 * 64 + low6 b2) :: go fuel r
          else '�' :: go fuel (takeSubpart lo hi 2 rest)
        | some (lo, hi, 4), b1 :: b2 :: b3 :: r =>
          if lo ≤ b1.toNat && b1.toNat ≤ hi && isCont b2 && isCont b3 then
            Char.ofNat ((b0.toNat % 8) * 262144 + low6 b1 * 4096 + low6 b2 * 64 + low6 b3)
              :: go fuel r
          else '�' :: go fuel (takeSubpart lo hi 3 rest)
        | some (lo, hi, k), _ => '�' :: go fuel (takeSubpart lo hi (k - 1) rest)
        | none, _ => '�' :: go fuel rest

/-- Text of arbitrary octets, each maximal ill-formed subpart replaced by U+FFFD. -/
def decodeLossy (bs : Bytes) : String := String.ofList (decodeLossyChars bs)

theorem encodeChar_length_le (c : Char) : (encodeChar c).length ≤ 4 := by
  unfold encodeChar
  dsimp only
  split <;> (try split) <;> (try split) <;> simp

end Utf8

end DocBatch
