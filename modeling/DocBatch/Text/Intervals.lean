/-!
# Tables of code points

A table of characters is a list of closed intervals of code points. `Separated` states the
shape every table keeps: increasing, each interval nonempty, and a gap before the next one.
Under that shape the first interval bounds the table from below (`covers_eq_false_of_lt`).
-/

namespace DocBatch

namespace Intervals

/-- Whether a character's code point lies in one of the closed intervals. -/
def covers (ranges : List (Nat × Nat)) (c : Char) : Bool :=
  let n := c.toNat
  ranges.any fun (lo, hi) => lo ≤ n && n ≤ hi

/-- Whether a list of intervals is in increasing order, each closed interval ending before the
next starts, with a gap between them. -/
def Separated : List (Nat × Nat) → Bool
  | [] => true
  | [(lo, hi)] => lo ≤ hi
  | (lo, hi) :: (lo', hi') :: rest => lo ≤ hi && hi + 1 < lo' && Separated ((lo', hi') :: rest)

theorem Separated.head_le {lo hi : Nat} :
    ∀ {rest : List (Nat × Nat)}, Separated ((lo, hi) :: rest) = true → lo ≤ hi
  | [], h => by simpa [Separated] using h
  | _ :: _, h => by
      simp only [Separated, Bool.and_eq_true, decide_eq_true_eq] at h
      exact h.1.1

/-- Every interval of a separated table after the first starts past the first one's end. -/
theorem Separated.lt_of_mem {lo hi : Nat} :
    ∀ {rest : List (Nat × Nat)}, Separated ((lo, hi) :: rest) = true → ∀ r ∈ rest, hi < r.1
  | [], _, r, hr => nomatch hr
  | (lo', hi') :: rest, h, r, hr => by
      simp only [Separated, Bool.and_eq_true, decide_eq_true_eq] at h
      obtain ⟨⟨-, hgap⟩, htail⟩ := h
      rcases List.mem_cons.1 hr with rfl | hr
      · exact Nat.lt_of_succ_lt hgap
      · have := Separated.lt_of_mem htail r hr
        have := Separated.head_le htail
        omega

/-- A separated table covers no code point below its first interval. -/
theorem covers_eq_false_of_lt {lo hi : Nat} {rest : List (Nat × Nat)}
    (hsep : Separated ((lo, hi) :: rest) = true) {c : Char} (hc : c.toNat < lo) :
    covers ((lo, hi) :: rest) c = false := by
  have hlo := Separated.head_le hsep
  refine List.any_eq_false.2 fun r hr hcov => ?_
  simp only [Bool.and_eq_true, decide_eq_true_eq] at hcov
  rcases List.mem_cons.1 hr with rfl | hr
  · omega
  · have := Separated.lt_of_mem hsep r hr
    omega

end Intervals

end DocBatch
