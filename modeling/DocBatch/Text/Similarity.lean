import DocBatch.Number.Binary64

/-!
# Similarity of words

The Jaro similarity of two words measures how many characters they share near the same
place, and how many of those are out of order. With `m` matching characters (each
character of the first word matches the first unmatched equal character of the second
within `max(|a|, |b|) / 2 - 1` places) and `t` half the number of matches out of order, it
is `(m / |a| + m / |b| + (m - t) / m) / 3`, and `0` with no match (`1` for two empty words).

The similarity is computed in double precision: the three fractions are rounded to doubles,
added from the left and divided by three, each result rounded to the nearest double, and the
threshold of 0.7 is the double nearest to it. The rounding decides the words whose exact
similarity is 0.7: their score comes out just above the threshold. Doubles are kept as exact
fractions, so that comparisons are exact.
-/

namespace DocBatch

namespace Similarity

/-- A fraction `num / den` with a positive denominator. -/
structure Ratio where
  num : Nat
  den : Nat
  deriving Repr, Inhabited

/-- Whether one fraction is smaller than another. -/
def Ratio.lt (a b : Ratio) : Bool := a.num * b.den < b.num * a.den

/-- The sum of two fractions. -/
def Ratio.add (a b : Ratio) : Ratio := ⟨a.num * b.den + b.num * a.den, a.den * b.den⟩

/-- The double nearest to a fraction, ties to the even significand, as a fraction. -/
def Ratio.rounded (r : Ratio) : Ratio :=
  match Binary64.roundRatio r.num r.den with
  | some x => let (n, d) := x.toRatio; ⟨n, d⟩
  | none => r

/-- Marks the first unmatched character of `b` equal to `c` among positions `lo` to `hi`
(excluded); the new marks, if one was found. -/
def claim (c : Char) (lo hi : Nat) : List Char → List Bool → Nat → Option (List Bool)
  | [], _, _ => none
  | _, [], _ => none
  | x :: xs, f :: fs, j =>
    if hi ≤ j then none
    else if lo ≤ j && x == c && !f then some (true :: fs)
    else (claim c lo hi xs fs (j + 1)).map (f :: ·)

/-- Matches the characters of `a` (from position `i`) against `b`; which characters of `a`
matched, and the marks on `b`. -/
def matchAll (b : List Char) (range : Nat) : List Char → Nat → List Bool → List Bool × List Bool
  | [], _, marks => ([], marks)
  | c :: rest, i, marks =>
    match claim c (i - range) (min b.length (i + range + 1)) b marks 0 with
    | some marks =>
      let (flags, marks) := matchAll b range rest (i + 1) marks
      (true :: flags, marks)
    | none =>
      let (flags, marks) := matchAll b range rest (i + 1) marks
      (false :: flags, marks)

/-- The matched characters of a word, in order. -/
def picked (cs : List Char) (flags : List Bool) : List Char :=
  (cs.zip flags).filterMap fun (c, f) => if f then some c else none

/-- The Jaro similarity of two words. -/
def jaro (a b : String) : Ratio :=
  let as := a.toList
  let bs := b.toList
  if as.isEmpty && bs.isEmpty then ⟨1, 1⟩
  else if as.isEmpty || bs.isEmpty then ⟨0, 1⟩
  else
    let range := max as.length bs.length / 2 - 1
    let (flags, marks) := matchAll bs range as 0 (bs.map fun _ => false)
    let m := (flags.filter id).length
    if m = 0 then ⟨0, 1⟩
    else
      let t := (((picked as flags).zip (picked bs marks)).filter fun (x, y) => x != y).length / 2
      let sum := ((Ratio.rounded ⟨m, as.length⟩).add (Ratio.rounded ⟨m, bs.length⟩)).rounded.add
        (Ratio.rounded ⟨m - t, m⟩)
      (⟨sum.rounded.num, sum.rounded.den * 3⟩ : Ratio).rounded

/-- The similarity above which a word is suggested for another: the double nearest 0.7. -/
def threshold : Ratio := (⟨7, 10⟩ : Ratio).rounded

/-- Puts a scored word after every word scored no higher. -/
def insertScored (x : Ratio × String) : List (Ratio × String) → List (Ratio × String)
  | [] => [x]
  | y :: rest => if x.1.lt y.1 then x :: y :: rest else y :: insertScored x rest

/-- The words similar enough to `w`, least similar first (equally similar ones in their
given order). -/
def similar (w : String) (candidates : List String) : List String :=
  let scored := (candidates.map fun c => (jaro w c, c)).filter fun (r, _) => threshold.lt r
  (scored.foldl (fun acc x => insertScored x acc) []).map (·.2)

example : similar "serv" ["serve", "submit", "health", "help"] = ["serve"] := by decide
example : similar "s" ["serve", "submit", "health", "help"] = ["submit", "serve"] := by decide
example : similar "essev" ["serve", "submit", "health", "help"] = ["serve"] := by decide

end Similarity

end DocBatch
