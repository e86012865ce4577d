/-!
# Binary64 numbers

Finite IEEE 754 double precision numbers, kept as sign, biased exponent and fraction, and
the exact arithmetic the library needs on them: the nearest double to a positive ratio of
naturals (ties to the even significand), products and quotients rounded the same way, and
the exact ratio a double stands for. A result too large for a double is `none`: the only
use of infinity here is to refuse it.

Main statement: `roundRatio_zero` (a zero numerator gives positive zero).
-/

namespace DocBatch

/-- A finite double: `negative` is the sign, `exponent` the biased exponent (0 for zero and
subnormal numbers, at most 2046) and `fraction` the 52 stored bits of the significand. -/
structure Binary64 where
  negative : Bool := false
  exponent : Nat := 0
  fraction : Nat := 0
  deriving Repr, DecidableEq

namespace Binary64

/-- Positive zero. -/
def zero : Binary64 := {}

/-- The integer significand: the hidden bit is present for normal numbers. -/
def significand (x : Binary64) : Nat :=
  if x.exponent = 0 then x.fraction else Nat.pow 2 52 + x.fraction

/-- The power of two that scales the significand. -/
def power (x : Binary64) : Int :=
  if x.exponent = 0 then -1074 else (x.exponent : Int) - 1075

/-- True for both zeros. -/
def isZero (x : Binary64) : Bool := x.exponent == 0 && x.fraction == 0

/-- The same magnitude with the other sign. -/
def neg (x : Binary64) : Binary64 := { x with negative := !x.negative }

/-- The magnitude as a ratio `(numerator, denominator)`, the denominator a power of two. -/
def toRatio (x : Binary64) : Nat × Nat :=
  if x.power ≥ 0 then (x.significand * Nat.pow 2 x.power.toNat, 1)
  else (x.significand, Nat.pow 2 (-x.power).toNat)

/-- `num / (den * 2^e)` for an integer `e`, as a quotient and remainder over the divisor. -/
def scaledDiv (num den : Nat) (e : Int) : Nat × Nat × Nat :=
  if e ≥ 0 then
    let d := den * Nat.pow 2 e.toNat
    (num / d, num % d, d)
  else
    let n := num * Nat.pow 2 (-e).toNat
    (n / den, n % den, den)

/-- The exponent that puts `num / den` into `[2^52, 2^53)`, found from the bit lengths and
corrected by at most two steps either way. -/
def binade (num den : Nat) : Int :=
  let start : Int := (Nat.log2 num : Int) - (Nat.log2 den : Int) - 52
  let fits (e : Int) : Bool :=
    let (q, _, _) := scaledDiv num den e
    Nat.pow 2 52 ≤ q && q < Nat.pow 2 53
  let candidates := [start, start - 1, start + 1, start - 2, start + 2]
  (candidates.find? fits).getD start

/-- The double nearest to the positive ratio `num / den` (`den > 0`), ties to the even
significand; `none` when the ratio rounds past the largest finite double. -/
def roundRatio (num den : Nat) : Option Binary64 :=
  if num = 0 then some zero
  else
    let e := max (binade num den) (-1074)
    let (q, r, d) := scaledDiv num den e
    let q := if 2 * r > d || (2 * r = d && q % 2 = 1) then q + 1 else q
    let (q, e) := if q = Nat.pow 2 53 then (Nat.pow 2 52, e + 1) else (q, e)
    if e > 971 then none
    else if q < Nat.pow 2 52 then some { exponent := 0, fraction := q }
    else some { exponent := (e + 1075).toNat, fraction := q - Nat.pow 2 52 }

/-- The double nearest to a natural number. -/
def ofNat (n : Nat) : Option Binary64 := roundRatio n 1

/-- The rounded product of two magnitudes (signs are the caller's business). -/
def mul (x y : Binary64) : Option Binary64 :=
  let (a, b) := x.toRatio
  let (c, d) := y.toRatio
  roundRatio (a * c) (b * d)

/-- The rounded quotient of two magnitudes; `y` must not be zero. -/
def div (x y : Binary64) : Option Binary64 :=
  let (a, b) := x.toRatio
  let (c, d) := y.toRatio
  roundRatio (a * d) (b * c)

theorem roundRatio_zero (den : Nat) : roundRatio 0 den = some zero := by
  simp [roundRatio]

end Binary64

end DocBatch
