import DocBatch.Number.Binary64

/-!
# Shortest decimal digits of a double

Every real number strictly between a double and its two neighbours' midpoints (the midpoints
themselves included when the significand is even) reads back as that double. The shortest
digits of a double are the fewest decimal digits of a number in that interval, and among
those the one nearest the double. If a decimal grid has a point in the interval, one of the
two grid points around the double is in it, so each grid is tested at those two points only,
from one digit up.

Two layouts are written from the digits: `plain` puts every digit in positional notation,
and `scientific` switches to an exponent for very large and very small magnitudes.
-/

namespace DocBatch

namespace Binary64

/-- Digits and the power of ten of their last digit: the value is `digits * 10^scale`. -/
structure Decimal where
  digits : Nat
  scale : Int
  deriving Repr, DecidableEq

/-- `10^e` as a ratio, for an integer `e`. -/
def tenPow (e : Int) : Nat × Nat :=
  if e ≥ 0 then (Nat.pow 10 e.toNat, 1) else (1, Nat.pow 10 (-e).toNat)

/-- The largest `e` with `10^e ≤ num / den`, for a positive ratio. -/
def floorLog10 (num den : Nat) : Int :=
  if num ≥ den then
    (go 0 (num / den) (num / den)).1
  else
    -(up 1 (den + 1))
where
  /-- Counts the decimal digits after the first of a positive natural. -/
  go (acc : Nat) (n : Nat) : Nat → Nat × Nat
    | 0 => (acc, n)
    | fuel + 1 => if n ≥ 10 then go (acc + 1) (n / 10) fuel else (acc, n)
  /-- The smallest `m ≥ start` with `num * 10^m ≥ den`. -/
  up (m : Nat) : Nat → Nat
    | 0 => m
    | fuel + 1 => if num * Nat.pow 10 m ≥ den then m else up (m + 1) fuel

/-- Removes trailing zero digits, raising the scale. -/
def Decimal.trim (d : Decimal) : Decimal :=
  go d.digits d.scale (d.digits + 1)
where
  /-- `fuel` bounds the number of digits removed. -/
  go (n : Nat) (s : Int) : Nat → Decimal
    | 0 => ⟨n, s⟩
    | fuel + 1 => if n ≠ 0 && n % 10 = 0 then go (n / 10) (s + 1) fuel else ⟨n, s⟩

/-- The shortest digits of a positive finite double, as described above. -/
def shortest (x : Binary64) : Decimal :=
  let m := x.significand
  let p := x.power
  -- The value and the interval ends, all over one denominator.
  let lowerHalf := x.fraction = 0 && x.exponent > 1
  let (v, lo, hi, den) :=
    if p ≥ 0 then
      let u := Nat.pow 2 p.toNat
      (4 * m * u, 4 * m * u - (if lowerHalf then u else 2 * u), 4 * m * u + 2 * u, 4)
    else
      (4 * m, 4 * m - (if lowerHalf then 1 else 2), 4 * m + 2, 4 * Nat.pow 2 (-p).toNat)
  let inclusive := m % 2 = 0
  let e := floorLog10 v den
  -- Is `c * 10^t` inside the interval?
  let inside (c : Nat) (t : Int) : Bool :=
    let (a, b) := tenPow t
    let w := c * a * den
    let lo' := lo * b
    let hi' := hi * b
    if inclusive then lo' ≤ w && w ≤ hi' else lo' < w && w < hi'
  -- Distance of `c * 10^t` from the value, over `b * den`.
  let dist (c : Nat) (t : Int) : Nat :=
    let (a, b) := tenPow t
    let w := c * a * den
    let z := v * b
    if w ≥ z then w - z else z - w
  let rec search (k : Nat) : Nat → Decimal
    | 0 => ⟨m, p.toNat⟩
    | fuel + 1 =>
      let t := e - (k : Int) + 1
      let (a, b) := tenPow t
      let below := v * b / (a * den)
      let above := below + 1
      let okBelow := below ≠ 0 && inside below t
      let okAbove := inside above t
      if okBelow && okAbove then
        if dist above t < dist below t then Decimal.trim ⟨above, t⟩ else Decimal.trim ⟨below, t⟩
      else if okBelow then Decimal.trim ⟨below, t⟩
      else if okAbove then Decimal.trim ⟨above, t⟩
      else search (k + 1) fuel
  search 1 17

/-- The decimal digits of a natural number. -/
def digitText (n : Nat) : String := toString n

/-- Positional notation with every digit: no exponent, and no point when the value is a
whole number. Zero is `0`. -/
def plain (x : Binary64) : String :=
  let sign := if x.negative then "-" else ""
  if x.isZero then sign ++ "0"
  else
    let d := shortest x
    let s := digitText d.digits
    let n := s.length
    let point : Int := (n : Int) + d.scale
    if d.scale ≥ 0 then sign ++ s ++ String.ofList (List.replicate d.scale.toNat '0')
    else if point > 0 then
      sign ++ String.ofList (s.toList.take point.toNat) ++ "." ++
        String.ofList (s.toList.drop point.toNat)
    else sign ++ "0." ++ String.ofList (List.replicate (-point).toNat '0') ++ s

/-- The text of an exponent: its sign, `+` when it is not negative, then its digits. -/
def exponentText (e : Int) : String := (if e ≥ 0 then "+" else "") ++ toString e

/-- Notation that keeps a point: positional while the point stands within sixteen digits
of the first one (and no more than five zeros follow the point), otherwise one digit, a
point if more digits follow, `e` and the signed exponent. Zero is `0.0`. -/
def scientific (x : Binary64) : String :=
  let sign := if x.negative then "-" else ""
  if x.isZero then sign ++ "0.0"
  else
    let d := shortest x
    let s := digitText d.digits
    let n := s.length
    let kk : Int := (n : Int) + d.scale
    let zeros (k : Int) := String.ofList (List.replicate k.toNat '0')
    if d.scale ≥ 0 && kk ≤ 16 then sign ++ s ++ zeros d.scale ++ ".0"
    else if 0 < kk && kk ≤ 16 then
      sign ++ String.ofList (s.toList.take kk.toNat) ++ "." ++ String.ofList (s.toList.drop kk.toNat)
    else if -5 < kk && kk ≤ 0 then sign ++ "0." ++ zeros (-kk) ++ s
    else if n = 1 then sign ++ s ++ "e" ++ exponentText (kk - 1)
    else sign ++ String.ofList (s.toList.take 1) ++ "." ++ String.ofList (s.toList.drop 1) ++ "e" ++
      exponentText (kk - 1)

end Binary64

end DocBatch
