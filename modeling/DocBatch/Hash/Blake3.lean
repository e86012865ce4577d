import DocBatch.Text.Utf8

/-!
# BLAKE3

The BLAKE3 hash with its default 32-octet output. The input is cut into chunks of 1024
octets and each chunk into blocks of 64; a chunk is compressed block by block from the
key words, and the chunks' chaining values are joined pairwise in a binary tree whose left
subtree always holds the largest power of two of chunks that leaves at least one chunk on
the right. The root node is compressed once more with the root flag, and the first eight
words of that output are the hash, least significant octet first.

`hex` writes the hash as lowercase hexadecimal, two digits per octet.
-/

namespace DocBatch

namespace Blake3

/-- The key words of the unkeyed hash. -/
def iv : List UInt32 :=
  [0x6A09E667, 0xBB67AE85, 0x3C6EF372, 0xA54FF53A, 0x510E527F, 0x9B05688C, 0x1F83D9AB,
    0x5BE0CD19]

/-- How message words are reordered between rounds. -/
def permutation : List Nat := [2, 6, 3, 10, 7, 0, 4, 13, 1, 11, 12, 5, 9, 14, 15, 8]

/-- Node flags. -/
def chunkStart : UInt32 := 1
def chunkEnd : UInt32 := 2
def parent : UInt32 := 4
def root : UInt32 := 8

/-- Rotation to the right of a word. -/
def rotr (x : UInt32) (n : UInt32) : UInt32 := (x >>> n) ||| (x <<< (32 - n))

/-- Word `i` of a state, zero past its end. -/
def word (s : Array UInt32) (i : Nat) : UInt32 := s.getD i 0

/-- The quarter-round mixing function on four words of the state. -/
def mix (s : Array UInt32) (a b c d : Nat) (x y : UInt32) : Array UInt32 :=
  let s := s.set! a (word s a + word s b + x)
  let s := s.set! d (rotr (word s d ^^^ word s a) 16)
  let s := s.set! c (word s c + word s d)
  let s := s.set! b (rotr (word s b ^^^ word s c) 12)
  let s := s.set! a (word s a + word s b + y)
  let s := s.set! d (rotr (word s d ^^^ word s a) 8)
  let s := s.set! c (word s c + word s d)
  s.set! b (rotr (word s b ^^^ word s c) 7)

/-- One round: the columns, then the diagonals. -/
def round (s : Array UInt32) (m : Array UInt32) : Array UInt32 :=
  let w := word m
  let s := mix s 0 4 8 12 (w 0) (w 1)
  let s := mix s 1 5 9 13 (w 2) (w 3)
  let s := mix s 2 6 10 14 (w 4) (w 5)
  let s := mix s 3 7 11 15 (w 6) (w 7)
  let s := mix s 0 5 10 15 (w 8) (w 9)
  let s := mix s 1 6 11 12 (w 10) (w 11)
  let s := mix s 2 7 8 13 (w 12) (w 13)
  mix s 3 4 9 14 (w 14) (w 15)

/-- The message words reordered for the next round. -/
def permute (m : Array UInt32) : Array UInt32 := (permutation.map (word m)).toArray

/-- The compression function: sixteen output words from a chaining value, a block of sixteen
words, a counter, the block's length in octets and the flags. -/
def compress (cv : List UInt32) (block : Array UInt32) (counter : Nat) (len : Nat)
    (flags : UInt32) : Array UInt32 :=
  let init : Array UInt32 :=
    (cv ++ iv.take 4 ++
      [(counter % Nat.pow 2 32).toUInt32, (counter / Nat.pow 2 32 % Nat.pow 2 32).toUInt32, len.toUInt32, flags]).toArray
  let (s, _) := (List.range 7).foldl (fun (acc : Array UInt32 × Array UInt32) _ =>
    (round acc.1 acc.2, permute acc.2)) (init, block)
  let cvA := cv.toArray
  ((List.range 8).map (fun i => word s i ^^^ word s (i + 8)) ++
    (List.range 8).map (fun i => word s (i + 8) ^^^ word cvA i)).toArray

/-- Little-endian words of a block of at most 64 octets, zero-padded. -/
def blockWords (bs : Bytes) : Array UInt32 :=
  let padded := (bs ++ List.replicate (64 - bs.length) 0).toArray
  let octet (j : Nat) : UInt32 := (padded.getD j (0 : UInt8)).toUInt32
  ((List.range 16).map fun (i : Nat) =>
    octet (4 * i) ||| (octet (4 * i + 1) <<< 8) ||| (octet (4 * i + 2) <<< 16) |||
      (octet (4 * i + 3) <<< 24)).toArray

/-- A node not yet compressed: what its last compression takes. -/
structure Node where
  cv : List UInt32
  block : Array UInt32
  counter : Nat
  len : Nat
  flags : UInt32

/-- The chaining value of a node: the first eight words of its compression. -/
def Node.chainingValue (n : Node) : List UInt32 :=
  (compress n.cv n.block n.counter n.len n.flags).toList.take 8

/-- Cuts octets into pieces of `size` (at least one piece, possibly empty). -/
def pieces (size : Nat) (bs : Bytes) : List Bytes :=
  go bs.length bs
where
  /-- `fuel` bounds the number of pieces taken. -/
  go : Nat → Bytes → List Bytes
    | 0, bs => [bs]
    | fuel + 1, bs => if bs.length ≤ size then [bs] else bs.take size :: go fuel (bs.drop size)

/-- The node of one chunk: all blocks but the last are compressed into the chaining value. -/
def chunkNode (index : Nat) (chunk : Bytes) : Node :=
  let blocks := pieces 64 chunk
  let rec go (cv : List UInt32) (first : Bool) : List Bytes → Node
    | [] => ⟨cv, blockWords [], index, 0, chunkEnd ||| (if first then chunkStart else 0)⟩
    | [b] => ⟨cv, blockWords b, index, b.length, chunkEnd ||| (if first then chunkStart else 0)⟩
    | b :: rest =>
      let cv' := (compress cv (blockWords b) index 64
        (if first then chunkStart else 0)).toList.take 8
      go cv' false rest
  go iv true blocks

/-- The parent node of two chaining values. -/
def parentNode (left right : List UInt32) : Node :=
  ⟨iv, (left ++ right).toArray, 0, 64, parent⟩

/-- The largest power of two strictly below `n` (for `n ≥ 2`). -/
def leftCount (n : Nat) : Nat := go 1 n
where
  /-- Doubles `p` while the double stays below `n`. -/
  go (p : Nat) : Nat → Nat
    | 0 => p
    | fuel + 1 => if 2 * p < n then go (2 * p) fuel else p

/-- The root node of the tree over the chunks numbered from `start`. -/
def treeNode (fuel : Nat) (start : Nat) (chunks : List Bytes) : Node :=
  match fuel, chunks with
  | _, [] => chunkNode start []
  | _, [c] => chunkNode start c
  | 0, c :: _ => chunkNode start c
  | fuel + 1, cs =>
    let k := leftCount cs.length
    let left := treeNode fuel start (cs.take k)
    let right := treeNode fuel (start + k) (cs.drop k)
    parentNode left.chainingValue right.chainingValue

/-- The 32-octet hash of octets. -/
def hash (bs : Bytes) : Bytes :=
  let chunks := pieces 1024 bs
  let n := treeNode chunks.length 0 chunks
  let out := compress n.cv n.block n.counter n.len (n.flags ||| root)
  (out.toList.take 8).flatMap fun (w : UInt32) =>
    [(w &&& 0xFF).toUInt8, ((w >>> 8) &&& 0xFF).toUInt8, ((w >>> 16) &&& 0xFF).toUInt8,
      ((w >>> 24) &&& 0xFF).toUInt8]

/-- A hexadecimal digit, lowercase. -/
def hexDigit (n : Nat) : Char :=
  if n < 10 then Char.ofNat (48 + n) else Char.ofNat (87 + n)

/-- Lowercase hexadecimal text of octets. -/
def hexOf (bs : Bytes) : String :=
  String.ofList (bs.flatMap fun b => [hexDigit (b.toNat / 16), hexDigit (b.toNat % 16)])

/-- The lowercase hexadecimal text of the hash of octets. -/
def hex (bs : Bytes) : String := hexOf (hash bs)

end Blake3

end DocBatch
