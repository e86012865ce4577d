import DocBatch.Text.Utf8

/-!
# Punycode

Punycode (RFC 3492) writes a string of code points with ASCII letters, digits and hyphens.
The ASCII characters come first, as they are; after the last hyphen, each other character is
written as a variable-length number in base 36. The number says how far the next insertion
is from the one before, counting both the position and the code point. The digit thresholds
of the numbers follow a bias that adapts to the differences seen so far.

`decode` reads such a text back. It refuses:

* an ASCII part holding a character that is not ASCII;
* a character that is not a digit of base 36;
* a number cut off by the end of the text;
* a code point that is no character;
* an intermediate value past 32 bits, as a decoder working in 32-bit arithmetic must.

Every insertion is of a code point at least 128, since the code point starts there and only
grows; so the ASCII characters of a decoded text are its ASCII part, in order (`decode_ascii`).
-/

namespace DocBatch

namespace Punycode

/-- The base of the variable-length numbers. -/
def base : Nat := 36

/-- The largest value of 32-bit arithmetic. -/
def limit : Nat := 0xFFFFFFFF

/-- The value of a digit: `a` to `z` (either case) are 0 to 25, `0` to `9` are 26 to 35. -/
def digitValue? (c : Char) : Option Nat :=
  let n := c.toNat
  if 0x61 ≤ n && n ≤ 0x7A then some (n - 0x61)
  else if 0x41 ≤ n && n ≤ 0x5A then some (n - 0x41)
  else if 0x30 ≤ n && n ≤ 0x39 then some (n - 0x30 + 26)
  else none

/-- The threshold of the digit at weight position `k`, between 1 and 26. -/
def threshold (k bias : Nat) : Nat :=
  if k ≤ bias then 1 else if bias + 26 ≤ k then 26 else k - bias

theorem threshold_pos (k bias : Nat) : 1 ≤ threshold k bias := by
  unfold threshold
  split
  · omega
  · split <;> omega

theorem threshold_le (k bias : Nat) : threshold k bias ≤ 26 := by
  unfold threshold
  split
  · omega
  · split <;> omega

/-- Divides a difference by 35 until it is at most 455, adding 36 to `k` each time. -/
def adaptLoop (delta k : Nat) : Nat × Nat :=
  if 455 < delta then adaptLoop (delta / 35) (k + base) else (delta, k)
termination_by delta
decreasing_by exact Nat.div_lt_self (by omega) (by omega)

/-- The bias after a difference `delta`, with `points` code points written so far; the first
difference is damped by 700, the others by 2. -/
def adapt (delta points : Nat) (first : Bool) : Nat :=
  let d := if first then delta / 700 else delta / 2
  let (d, k) := adaptLoop (d + d / points) 0
  k + 36 * d / (d + 38)

/-- Reads one variable-length number at the front of the text, adding it to `i`: the new `i`
and the rest of the text. `k` is the weight position and `w` the weight of the next digit. -/
def readNumber (bias : Nat) : List Char → Nat → Nat → Nat → Option (Nat × List Char)
  | [], _, _, _ => none
  | c :: rest, k, w, i =>
    match digitValue? c with
    | none => none
    | some d =>
      if limit < d * w || limit < i + d * w then none
      else if d < threshold k bias then some (i + d * w, rest)
      else if limit < w * (base - threshold k bias) then none
      else readNumber bias rest (k + base) (w * (base - threshold k bias)) (i + d * w)

/-- Reading a number consumes at least one character. -/
theorem readNumber_length : ∀ (bias : Nat) (l : List Char) (k w i : Nat) (r : Nat × List Char),
    readNumber bias l k w i = some r → r.2.length < l.length
  | _, [], _, _, _, _, h => by simp [readNumber] at h
  | bias, c :: rest, k, w, i, r, h => by
    rw [readNumber] at h
    split at h
    · simp at h
    · split at h
      · simp at h
      · split at h
        · rw [← Option.some.inj h]
          simp
        · split at h
          · simp at h
          · have := readNumber_length bias rest _ _ _ r h
            simp only [List.length_cons]
            omega

/-- Whether a number is the code point of a character. -/
def isCharCode (n : Nat) : Bool := n < 0xD800 || (0xDFFF < n && n < 0x110000)

theorem toNat_ofNat_of_isCharCode {n : Nat} (h : isCharCode n = true) :
    (Char.ofNat n).toNat = n := by
  apply Char.toNat_ofNat_of_valid
  simp only [isCharCode, Bool.or_eq_true, Bool.and_eq_true, decide_eq_true_eq] at h
  exact h

/-- Puts a character at a position of a list. -/
def insertAt (pos : Nat) (c : Char) (l : List Char) : List Char := l.take pos ++ c :: l.drop pos

theorem filter_insertAt (p : Char → Bool) {c : Char} (hc : p c = false) (pos : Nat)
    (l : List Char) : (insertAt pos c l).filter p = l.filter p := by
  rw [insertAt, List.filter_append, List.filter_cons_of_neg (by simp [hc]), ← List.filter_append,
    List.take_append_drop]

/-- Reads the numbers of the text and makes each insertion into `out`, from code point `n`
and position `i`. -/
def insertAll (bias n i : Nat) (out : List Char) : List Char → Option (List Char)
  | [] => some out
  | c :: rest =>
    match h : readNumber bias (c :: rest) base 1 i with
    | none => none
    | some (i', rem) =>
      let points := out.length + 1
      let n' := n + i' / points
      let pos := i' % points
      if isCharCode n' then
        insertAll (adapt (i' - i) points (i == 0)) n' (pos + 1) (insertAt pos (Char.ofNat n') out) rem
      else none
termination_by l => l.length
decreasing_by
  have := readNumber_length bias (c :: rest) base 1 i (i', rem) h
  simpa using this

/-- From a code point of 128 or more, the insertions leave the ASCII characters as they were. -/
theorem insertAll_ascii {bias n i : Nat} {out rest result : List Char} (hn : 0x80 ≤ n)
    (h : insertAll bias n i out rest = some result) :
    result.filter (fun c => c.toNat < 0x80) = out.filter (fun c => c.toNat < 0x80) := by
  fun_induction insertAll bias n i out rest generalizing result with
  | case1 => simp_all
  | case2 => simp_all
  | case3 bias n i out c rest i' rem hread points n' pos hcode =>
    rename_i ih
    have hn' : 0x80 ≤ n' := Nat.le_trans hn (Nat.le_add_right _ _)
    have hlarge : 0x80 ≤ (Char.ofNat n').toNat := by
      rw [toNat_ofNat_of_isCharCode hcode]
      exact hn'
    rw [ih hn' h, filter_insertAt _ (by simpa using hlarge)]
  | case4 => simp_all

/-- The ASCII part and the numbers of a text: what stands before its last hyphen, and what
follows it; without a hyphen, the whole text is numbers. -/
def splitLastHyphen (input : List Char) : List Char × List Char :=
  match input.reverse.span (· != '-') with
  | (tail, []) => ([], tail.reverse)
  | (tail, _ :: head) => (head.reverse, tail.reverse)

/-- The characters a Punycode text stands for, or `none` when it cannot be decoded. -/
def decode (input : List Char) : Option (List Char) :=
  let (basic, numbers) := splitLastHyphen input
  if basic.any (fun c => 0x80 ≤ c.toNat) then none
  else insertAll 72 128 0 basic numbers

/-- The ASCII characters of a decoded text are the part before its last hyphen. -/
theorem decode_ascii {input out : List Char} (h : decode input = some out) :
    out.filter (fun c => c.toNat < 0x80) = (splitLastHyphen input).1 := by
  obtain ⟨hbasic, hins⟩ : (∀ c ∈ (splitLastHyphen input).1, c.toNat < 0x80) ∧
      insertAll 72 128 0 (splitLastHyphen input).1 (splitLastHyphen input).2 = some out := by
    simpa [decode] using h
  rw [insertAll_ascii (Nat.le_refl _) hins, List.filter_eq_self]
  simpa using hbasic

example : decode "bcher-kva".toList = some "bücher".toList := by decide +kernel
example : decode "tda".toList = some ['ü'] := by decide +kernel
example : decode "a-!".toList = none := by decide +kernel

/-- A text of ASCII characters ending in a hyphen has no numbers: it decodes to itself. -/
theorem decode_basic {basic : List Char} (h : ∀ c ∈ basic, c.toNat < 0x80) :
    decode (basic ++ ['-']) = some basic := by
  have hspan : ('-' :: basic.reverse).span (· != '-') = ([], '-' :: basic.reverse) := rfl
  have hsplit : splitLastHyphen (basic ++ ['-']) = (basic, []) := by
    simp only [splitLastHyphen, List.reverse_append, List.reverse_cons, List.reverse_nil,
      List.nil_append, List.cons_append, hspan, List.reverse_reverse]
  simpa [decode, hsplit, insertAll] using h

example : decode "abc-".toList = some "abc".toList := by decide +kernel

end Punycode

end DocBatch
