import Mathlib.Order.Bounds.Basic
import Mathlib.Tactic.Ring

/-!
# Lengths in pieces

How many pieces of one size a length takes.
-/

set_option autoImplicit false

/-- The number of pieces of size `c` that cover a length: the quotient, and one more where a
remainder is left. -/
def pieces (length c : ℕ) : ℕ := length / c + if length % c = 0 then 0 else 1

namespace Pieces

variable {length c n : ℕ}

/-- The pieces hold the whole length. -/
theorem length_le (hc : 0 < c) : length ≤ pieces length c * c := by
  have hdiv := Nat.div_add_mod' length c
  have hlt := Nat.mod_lt length hc
  unfold pieces
  split
  · simp only [add_zero]
    omega
  · rw [add_mul, one_mul]
    omega

/-- The pieces before the last one do not reach the end. -/
theorem lt_of_lt (h : n < pieces length c) : n * c < length := by
  have hdiv := Nat.div_add_mod' length c
  unfold pieces at h
  split at h
  · have hstep : (n + 1) * c ≤ length / c * c := Nat.mul_le_mul_right c (by omega)
    have hc : 0 < c := by
      by_contra hzero
      obtain rfl : c = 0 := by omega
      simp at h
    rw [add_mul, one_mul] at hstep
    omega
  · have hle : n * c ≤ length / c * c := Nat.mul_le_mul_right c (by omega)
    omega

/-- No fewer pieces cover the length. -/
theorem isLeast_pieces (hc : 0 < c) : IsLeast {n | length ≤ n * c} (pieces length c) := by
  constructor
  · exact length_le hc
  · intro n hn
    by_contra hlt
    have := lt_of_lt (not_le.mp hlt)
    exact absurd hn (not_le.mpr this)

/-- The number of pieces is the least number that holds the whole length. -/
theorem isLeast_iff (hc : 0 < c) : IsLeast {n | length ≤ n * c} n ↔ n = pieces length c := by
  constructor
  · intro h
    exact h.unique (isLeast_pieces hc)
  · rintro rfl
    exact isLeast_pieces hc

/-- What is left for the last piece is at least one and at most a whole piece. -/
theorem last_piece (hc : 0 < c) (hn : 0 < pieces length c) :
    1 ≤ length - (pieces length c - 1) * c ∧ length - (pieces length c - 1) * c ≤ c := by
  have hlt : (pieces length c - 1) * c < length := lt_of_lt (by omega)
  have hle : length ≤ pieces length c * c := length_le hc
  have hsplit : pieces length c * c = (pieces length c - 1) * c + c := by
    rw [← Nat.succ_mul, Nat.succ_eq_add_one, Nat.sub_add_cancel hn]
  omega

end Pieces
