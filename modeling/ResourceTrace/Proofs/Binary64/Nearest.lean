import Mathlib.Algebra.Order.Ring.Nat
import Mathlib.Tactic.Linarith
import Mathlib.Tactic.Ring

set_option autoImplicit false

namespace ResourceTrace.Binary64

/-- The quotient rounded to the nearest number, to the even one of two. -/
def nearestQuotient (n d : Nat) : Nat :=
  if 2 * (n % d) < d then n / d
  else if d < 2 * (n % d) then n / d + 1
  else n / d + n / d % 2

/-- The distance between neighbours among the numbers of 53 digits that are as large as `n`. -/
def spacing (n : Nat) : Nat := 2 ^ (n.log2 - 52)

def nearest (n : Nat) : Nat := nearestQuotient n (spacing n) * spacing n

theorem spacing_pos (n : Nat) : 0 < spacing n := Nat.two_pow_pos _

theorem spacing_eq_one {n : Nat} (h : n < 2 ^ 53) : spacing n = 1 := by
  rcases Nat.eq_zero_or_pos n with rfl | hn
  · rfl
  have hlog := (Nat.log2_lt hn.ne').mpr h
  have hzero : n.log2 - 52 = 0 := by omega
  rw [spacing, hzero, Nat.pow_zero]

theorem mul_spacing_le {n : Nat} (h : 2 ^ 52 ≤ n) : 2 ^ 52 * spacing n ≤ n := by
  have hn : n ≠ 0 := by omega
  have hlog := (Nat.le_log2 hn).mpr h
  rw [spacing, ← Nat.pow_add, Nat.add_sub_cancel' hlog]
  exact Nat.log2_self_le hn

theorem lt_mul_spacing (n : Nat) : n < 2 ^ 53 * spacing n := by
  rw [spacing, ← Nat.pow_add]
  exact Nat.lt_log2_self.trans_le (Nat.pow_le_pow_right (by decide) (by omega))

theorem log2_mul_two_pow {n : Nat} (hn : n ≠ 0) (i : Nat) : (n * 2 ^ i).log2 = n.log2 + i := by
  have hpos : 0 < 2 ^ i := Nat.two_pow_pos i
  have hne : n * 2 ^ i ≠ 0 := Nat.mul_ne_zero hn hpos.ne'
  rw [Nat.log2_eq_iff hne, Nat.pow_add, Nat.add_right_comm, Nat.pow_add]
  exact ⟨Nat.mul_le_mul_right _ (Nat.log2_self_le hn),
    Nat.mul_lt_mul_of_pos_right Nat.lt_log2_self hpos⟩

theorem nearestQuotient_of_dvd {n d : Nat} (hd : 0 < d) (h : d ∣ n) :
    nearestQuotient n d = n / d := by
  rw [nearestQuotient, Nat.mod_eq_zero_of_dvd h, if_pos (by omega)]

theorem nearestQuotient_mul_right (n d : Nat) {c : Nat} (hc : 0 < c) :
    nearestQuotient (n * c) (d * c) = nearestQuotient n d := by
  have hbelow : 2 * (n % d * c) < d * c ↔ 2 * (n % d) < d := by
    rw [← Nat.mul_assoc, Nat.mul_lt_mul_right hc]
  have habove : d * c < 2 * (n % d * c) ↔ d < 2 * (n % d) := by
    rw [← Nat.mul_assoc, Nat.mul_lt_mul_right hc]
  simp only [nearestQuotient, Nat.mul_mod_mul_right, Nat.mul_div_mul_right _ _ hc, hbelow, habove]

theorem nearestQuotient_error (n : Nat) {d : Nat} (hd : 0 < d) :
    2 * (nearestQuotient n d * d) ≤ 2 * n + d ∧ 2 * n ≤ 2 * (nearestQuotient n d * d) + d := by
  have hdiv := Nat.div_add_mod' n d
  have hmod := Nat.mod_lt n hd
  rw [nearestQuotient]
  generalize n / d = q at *
  generalize n % d = r at *
  split_ifs with hbelow habove
  · omega
  · rw [Nat.add_mul]
    omega
  · rcases Nat.mod_two_eq_zero_or_one q with hq | hq <;> rw [hq, Nat.add_mul] <;> omega

theorem nearest_of_dvd {n : Nat} (h : spacing n ∣ n) : nearest n = n := by
  rw [nearest, nearestQuotient_of_dvd (spacing_pos n) h, Nat.div_mul_cancel h]

theorem nearest_of_lt {n : Nat} (h : n < 2 ^ 53) : nearest n = n :=
  nearest_of_dvd (by rw [spacing_eq_one h]; exact Nat.one_dvd n)

theorem nearest_mul_two_pow (n i : Nat) : nearest (n * 2 ^ i) = nearest n * 2 ^ i := by
  rcases Nat.eq_zero_or_pos n with rfl | hn
  · simp [nearest_of_lt]
  have hlog := log2_mul_two_pow hn.ne' i
  by_cases hlarge : 52 ≤ n.log2
  · have hspacing : spacing (n * 2 ^ i) = spacing n * 2 ^ i := by
      rw [spacing, spacing, ← Nat.pow_add, hlog, Nat.sub_add_comm hlarge]
    rw [nearest, hspacing, nearestQuotient_mul_right _ _ (Nat.two_pow_pos i), ← Nat.mul_assoc,
      nearest]
  -- the spacing of a small number is cut off at 1, so the two need not be in proportion
  · have hdvd : spacing (n * 2 ^ i) ∣ n * 2 ^ i := by
      rw [spacing, hlog]
      exact (Nat.pow_dvd_pow 2 (by omega)).mul_left n
    have hsmall : n < 2 ^ 53 :=
      Nat.lt_log2_self.trans_le (Nat.pow_le_pow_right (by decide) (by omega))
    rw [nearest_of_dvd hdvd, nearest_of_lt hsmall]

/-- The relative error is at most one part in `2 ^ 53`. -/
theorem nearest_error (n : Nat) :
    2 ^ 53 * nearest n ≤ (2 ^ 53 + 1) * n ∧ 2 ^ 53 * n ≤ 2 ^ 53 * nearest n + n := by
  by_cases h : n < 2 ^ 53
  · rw [nearest_of_lt h]
    omega
  · have herror := nearestQuotient_error n (spacing_pos n)
    have hspacing := mul_spacing_le (n := n) (by omega)
    rw [← nearest] at herror
    omega

theorem nearest_of_close {m n : Nat} (hdvd : spacing n ∣ m) (hle : m ≤ n)
    (hclose : 2 * (n - m) < spacing n) : nearest n = m := by
  obtain ⟨q, hq⟩ := hdvd
  have herror := nearestQuotient_error n (spacing_pos n)
  rw [nearest]
  generalize nearestQuotient n (spacing n) = q' at *
  generalize spacing n = d at *
  rw [Nat.mul_comm] at hq
  have hlower : q < q' + 1 := Nat.lt_of_mul_lt_mul_right (a := d) (by rw [Nat.add_mul]; omega)
  have hupper : q' < q + 1 := Nat.lt_of_mul_lt_mul_right (a := d) (by rw [Nat.add_mul]; omega)
  rw [hq, Nat.le_antisymm (Nat.le_of_lt_succ hupper) (Nat.le_of_lt_succ hlower)]

end ResourceTrace.Binary64
