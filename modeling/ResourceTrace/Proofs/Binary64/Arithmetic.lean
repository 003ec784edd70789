import Mathlib
import ResourceTrace.Proofs.Binary64.Nearest

/-!
Products and comparisons of floating-point numbers that are not negative. A number of 53 digits has
its last digit between the places -1074 and 971. As long as the exponents stay away from these
bounds, a product is the exact product rounded to 53 digits, and numbers compare as what they stand
for.
-/

set_option autoImplicit false

namespace ResourceTrace.Binary64

open Float.Model UnpackedFloat

/-- The whole part of a quotient, with the two bits that tell where the rest lies. -/
structure Cut (em : ExtendedMantissa) (n d : Nat) : Prop where
  mantissa : em.mantissa = n / d
  roundBit : em.roundBit = decide (d ≤ 2 * (n % d))
  stickyBit : em.stickyBit = decide (n % d ≠ 0 ∧ 2 * (n % d) ≠ d)

theorem cut_exact (n : Nat) : Cut (.ofMantissaAndAccuracy n .exact) n 1 :=
  ⟨(Nat.div_one n).symm, by simp [ExtendedMantissa.ofMantissaAndAccuracy, Nat.mod_one],
    by simp [ExtendedMantissa.ofMantissaAndAccuracy, Nat.mod_one]⟩

theorem Cut.shiftRightOne {em : ExtendedMantissa} {n d : Nat} (hd : 0 < d) (h : Cut em n d) :
    Cut em.shiftRightOne n (d * 2) := by
  have hrest : n % (d * 2) = n % d + d * (n / d % 2) := Nat.mod_mul
  have hlt := Nat.mod_lt n hd
  refine ⟨?_, ?_, ?_⟩
  · rw [ExtendedMantissa.shiftRightOne, h.mantissa, Nat.div_div_eq_div_mul]
  all_goals
    simp only [ExtendedMantissa.shiftRightOne, h.mantissa, h.roundBit, h.stickyBit, hrest]
    generalize n % d = r at *
    rcases Nat.mod_two_eq_zero_or_one (n / d) with hbit | hbit <;>
      simp only [hbit, Nat.mul_zero, Nat.mul_one, Nat.add_zero] <;> grind

theorem Cut.shiftRight {em : ExtendedMantissa} {n d : Nat} (hd : 0 < d) (h : Cut em n d) (k : Nat) :
    Cut (em >>> k) n (d * 2 ^ k) := by
  change Cut (k.repeat ExtendedMantissa.shiftRightOne em) n (d * 2 ^ k)
  induction k with
  | zero => simpa [Nat.repeat] using h
  | succ k ih =>
    rw [Nat.repeat, Nat.pow_succ, ← Nat.mul_assoc]
    exact ih.shiftRightOne (Nat.mul_pos hd (Nat.two_pow_pos k))

theorem Cut.roundedMantissa {em : ExtendedMantissa} {n d : Nat} (h : Cut em n d) :
    em.roundedMantissa = nearestQuotient n d := by
  obtain ⟨mantissa, roundBit, stickyBit⟩ := em
  obtain ⟨rfl, rfl, rfl⟩ := h
  rw [nearestQuotient, ExtendedMantissa.roundedMantissa]
  generalize n % d = r
  by_cases hround : d ≤ 2 * r
  · by_cases heq : 2 * r = d
    · simp [ExtendedMantissa.accuracy, Accuracy.roundToNearestEven, heq]
    · have hlt : d < 2 * r := by omega
      have hpos : r ≠ 0 := by omega
      simp [ExtendedMantissa.accuracy, Accuracy.roundToNearestEven, heq, hlt, hround, hpos]
  · have hlt : 2 * r < d := by omega
    have hne : 2 * r ≠ d := by omega
    by_cases hzero : r = 0
    · have hd : 0 < d := by omega
      simp [ExtendedMantissa.accuracy, Accuracy.roundToNearestEven, hzero, hd, hd.ne']
    · simp [ExtendedMantissa.accuracy, Accuracy.roundToNearestEven, hlt, hne, hround, hzero]

inductive Normal (bound : Nat) : UnpackedFloat → Prop
  | zero : Normal bound (.zero .positive)
  | finite {m : Nat} {e : Int} {h : 0 < m} (hm : m.log2 = 52) (hlow : -bound ≤ e)
    (hhigh : e ≤ bound) : Normal bound (.finite .positive m e h)

def value : UnpackedFloat → ℚ
  | .finite _ m e _ => m * 2 ^ e
  | _ => 0

theorem shiftToTargetExponent_eq {n : Nat} {e : Int} (hlog : 52 ≤ n.log2)
    (he : -1074 ≤ e + (n.log2 - 52 : Nat)) :
    shiftToTargetExponent .binary64 n e .exact =
      (ExtendedMantissa.ofMantissaAndAccuracy n .exact >>> (n.log2 - 52),
        e + (n.log2 - 52 : Nat)) := by
  have htarget : Format.binary64.targetExponent (totalExponent n e) = e + (n.log2 - 52 : Nat) := by
    simp only [Format.targetExponent, totalExponent, Format.mantissaBits, Format.minExponent]
    omega
  have hshift : (e + (n.log2 - 52 : Nat) - e).toNat = n.log2 - 52 := by omega
  rw [shiftToTargetExponent, htarget, shiftToExponent, hshift]

theorem nearestQuotient_spacing_bounds {n : Nat} (h : 2 ^ 52 ≤ n) :
    2 ^ 52 ≤ nearestQuotient n (spacing n) ∧ nearestQuotient n (spacing n) ≤ 2 ^ 53 := by
  have hlow : 2 ^ 52 ≤ n / spacing n :=
    (Nat.le_div_iff_mul_le (spacing_pos n)).mpr (mul_spacing_le h)
  have hhigh : n / spacing n < 2 ^ 53 :=
    (Nat.div_lt_iff_lt_mul (spacing_pos n)).mpr (lt_mul_spacing n)
  rw [nearestQuotient]
  split_ifs <;> omega

theorem div_spacing_bounds {r : Nat} (hlow : 2 ^ 52 ≤ r) (hhigh : r ≤ 2 ^ 53) :
    spacing r ∣ r ∧ 2 ^ 52 ≤ r / spacing r ∧ r / spacing r < 2 ^ 53 := by
  rcases Nat.lt_or_eq_of_le hhigh with hlt | rfl
  · rw [spacing_eq_one hlt, Nat.div_one]
    exact ⟨Nat.one_dvd r, hlow, hlt⟩
  · decide

theorem value_div_spacing {n : Nat} (hdvd : spacing n ∣ n) (e : Int) :
    ((n / spacing n : Nat) : ℚ) * 2 ^ (e + (n.log2 - 52 : Nat)) = n * 2 ^ e :=
  calc ((n / spacing n : Nat) : ℚ) * 2 ^ (e + (n.log2 - 52 : Nat))
      = ((n / spacing n * spacing n : Nat) : ℚ) * 2 ^ e := by
        rw [zpow_add₀ (by norm_num), zpow_natCast, spacing]
        push_cast
        ring
    _ = n * 2 ^ e := by rw [Nat.div_mul_cancel hdvd]

/-- A number is rounded to 53 digits. Where the rounding carries into a new digit, the second shift
cuts off the zero at the end. -/
theorem roundWithAccuracy_eq {n : Nat} {e : Int} {bound : Nat} (hn : 2 ^ 52 ≤ n)
    (hlow : -bound ≤ e + (n.log2 - 52 : Nat)) (hhigh : e + (n.log2 - 52 : Nat) + 1 ≤ bound)
    (hbound : bound ≤ 1074) :
    Normal bound (roundWithAccuracy .binary64 .positive n e .exact) ∧
      value (roundWithAccuracy .binary64 .positive n e .exact) = nearest n * 2 ^ e := by
  have hlog : 52 ≤ n.log2 := (Nat.le_log2 (by omega)).mpr hn
  obtain ⟨hleast, hmost⟩ := nearestQuotient_spacing_bounds hn
  -- `r` has 53 digits, or it is the next power of two.
  generalize hr : nearestQuotient n (spacing n) = r at *
  have hrlog : 52 ≤ r.log2 ∧ r.log2 ≤ 53 :=
    ⟨(Nat.le_log2 (by omega)).mpr hleast,
      Nat.le_of_lt_succ ((Nat.log2_lt (by omega)).mpr (by omega))⟩
  have hcut := (cut_exact n).shiftRight Nat.one_pos (n.log2 - 52)
  have hfirst := hcut.roundedMantissa
  rw [Nat.one_mul, ← spacing, hr] at hfirst
  have hlast := ((cut_exact r).shiftRight Nat.one_pos (r.log2 - 52)).mantissa
  rw [Nat.one_mul, ← spacing] at hlast
  obtain ⟨hdvd, hdigits⟩ := div_spacing_bounds hleast hmost
  have hne : r / spacing r ≠ 0 := by omega
  have hshift := shiftToTargetExponent_eq hlog (e := e) (by omega)
  have hcarry := shiftToTargetExponent_eq hrlog.1 (e := e + (n.log2 - 52 : Nat)) (by omega)
  have hround : roundWithAccuracy .binary64 .positive n e .exact =
      .finite .positive (r / spacing r) (e + (n.log2 - 52 : Nat) + (r.log2 - 52 : Nat))
        (Nat.pos_of_ne_zero hne) := by
    simp only [roundWithAccuracy, hshift, hfirst, hcarry, hlast, dif_neg hne]
  rw [hround]
  refine ⟨.finite ((Nat.log2_eq_iff hne).mpr hdigits) (by omega) (by omega), ?_⟩
  rw [value, value_div_spacing hdvd, nearest, hr, spacing, zpow_add₀ (by norm_num), zpow_natCast]
  push_cast
  ring

theorem pack_finite {m biased : Nat} (hm : 0 < m) (hlog : m.log2 = 52) (hbiased : biased ≤ 2046) :
    UnpackedFloat.pack .binary64 (.finite .positive m (biased - 1075) hm) =
      packComponents .binary64 .positive (BitVec.ofNat 11 biased) (BitVec.ofNat 52 m) := by
  have hbits : ((biased - 1075 : Int) + 1023 + 52).toNat = biased := by omega
  have hrange : ¬2 ^ 11 ≤ biased + 1 := by omega
  change (if 2 ^ 11 ≤ ((biased - 1075 : Int) + 1023 + 52).toNat + 1 then _
    else if m.log2 + 1 = 53 then packComponents .binary64 .positive
      (BitVec.ofNat 11 ((biased - 1075 : Int) + 1023 + 52).toNat) (BitVec.ofNat 52 m) else _) = _
  rw [hbits, if_neg hrange, if_pos (by omega)]

theorem unpack_packComponents {m biased : Nat} (hm : 0 < m) (hlog : m.log2 = 52) (hpos : 0 < biased)
    (hbiased : biased ≤ 2046) : UnpackedFloat.unpack .binary64
      (packComponents .binary64 .positive (BitVec.ofNat 11 biased) (BitVec.ofNat 52 m)) =
    .finite .positive m (biased - 1075) hm := by
  obtain ⟨hleast, hmost⟩ := (Nat.log2_eq_iff hm.ne').mp hlog
  have hexponent : (BitVec.ofNat 11 biased).toNat = biased := Nat.mod_eq_of_lt (by omega)
  have hzero : BitVec.ofNat 11 biased ≠ 0#11 := fun h => by
    have hnat := congrArg BitVec.toNat h
    rw [hexponent] at hnat
    exact hpos.ne' hnat
  have hones : BitVec.ofNat 11 biased ≠ -1#11 := fun h => by
    have hnat := congrArg BitVec.toNat h
    rw [hexponent] at hnat
    change biased = 2047 at hnat
    omega
  have hmantissa : (1#1 ++ BitVec.ofNat 52 m).toNat = m := by
    rw [BitVec.toNat_append, ← Nat.shiftLeft_add_eq_or_of_lt (BitVec.isLt _), Nat.shiftLeft_eq]
    simp only [BitVec.toNat_ofNat]
    omega
  simp only [UnpackedFloat.unpack, unpackMantissa_packComponents, unpackExponent_packComponents,
    unpackSign_packComponents, hzero, hones, if_false, hexponent, hmantissa]
  rfl

theorem unpack_pack {u : UnpackedFloat} {bound : Nat} (h : Normal bound u) (hbound : bound ≤ 971) :
    (Float.Model.pack u).unpack = u := by
  cases h with
  | zero => rfl
  | @finite m e hm hlog hlow hhigh =>
    obtain ⟨biased, rfl⟩ : ∃ biased : Nat, e = biased - 1075 := ⟨(e + 1075).toNat, by omega⟩
    exact (congrArg (UnpackedFloat.unpack .binary64) (pack_finite hm hlog (by omega))).trans
      (unpack_packComponents hm hlog (by omega) (by omega))

theorem nearest_scaled {m n : Nat} {e f : Int} (hle : e ≤ f) (h : (m : ℚ) * 2 ^ e = n * 2 ^ f) :
    (nearest m : ℚ) * 2 ^ e = nearest n * 2 ^ f := by
  obtain ⟨k, rfl⟩ := Int.le.dest hle
  have hpos : (0 : ℚ) < 2 ^ e := zpow_pos (by norm_num) e
  -- The two have the same digits, up to zeros at the end.
  have hm : m = n * 2 ^ k := by
    rw [zpow_add₀ (by norm_num), zpow_natCast] at h
    have hcancel : (m : ℚ) = n * 2 ^ k := by
      apply mul_right_cancel₀ hpos.ne'
      rw [h]
      ring
    exact_mod_cast hcancel
  rw [hm, nearest_mul_two_pow, zpow_add₀ (by norm_num), zpow_natCast]
  push_cast
  ring

theorem nearest_congr {m n : Nat} {e f : Int} (h : (m : ℚ) * 2 ^ e = n * 2 ^ f) :
    (nearest m : ℚ) * 2 ^ e = nearest n * 2 ^ f := by
  rcases le_total e f with hle | hle
  · exact nearest_scaled hle h
  · exact (nearest_scaled hle h.symm).symm

theorem log2_mul_bounds {m n : Nat} (hm : m.log2 = 52) (hn : n.log2 = 52) (hpos : 0 < m)
    (hpos' : 0 < n) : 104 ≤ (m * n).log2 ∧ (m * n).log2 ≤ 105 := by
  obtain ⟨hlow, hhigh⟩ := (Nat.log2_eq_iff hpos.ne').mp hm
  obtain ⟨hlow', hhigh'⟩ := (Nat.log2_eq_iff hpos'.ne').mp hn
  have hne : m * n ≠ 0 := (Nat.mul_pos hpos hpos').ne'
  refine ⟨(Nat.le_log2 hne).mpr ?_, Nat.le_of_lt_succ ((Nat.log2_lt hne).mpr ?_)⟩
  · exact (Nat.pow_add 2 52 52).trans_le (Nat.mul_le_mul hlow hlow')
  · exact (Nat.mul_lt_mul_of_lt_of_lt hhigh hhigh').trans_eq (Nat.pow_add 2 53 53).symm

theorem eq_zero_of_value {n : Nat} {i : Int} (h : (0 : ℚ) = n * 2 ^ i) : n = 0 := by
  have hpow : (2 : ℚ) ^ i ≠ 0 := zpow_ne_zero i (by norm_num)
  have hcast : (n : ℚ) = 0 := by simpa [hpow] using h.symm
  exact_mod_cast hcast

theorem mul_normal {u v : UnpackedFloat} {b c n k : Nat} {i j : Int} (hu : Normal b u)
    (hv : Normal c v) (hbound : b + c + 54 ≤ 1074) (hn : value u = n * 2 ^ i)
    (hk : value v = k * 2 ^ j) : Normal (b + c + 54) (UnpackedFloat.mul .binary64 u v) ∧
      value (UnpackedFloat.mul .binary64 u v) = nearest (n * k) * 2 ^ (i + j) := by
  have hnone : nearest 0 = 0 := nearest_of_lt (by decide)
  cases hu with
  | zero =>
    have hmul : UnpackedFloat.mul .binary64 (.zero .positive) v = .zero .positive := by
      cases hv <;> rfl
    rw [hmul, eq_zero_of_value hn, Nat.zero_mul, hnone]
    exact ⟨.zero, by simp [value]⟩
  | @finite m e hm hlog hlow hhigh =>
    cases hv with
    | zero =>
      have hmul : UnpackedFloat.mul .binary64 (.finite .positive m e hm) (.zero .positive) =
        .zero .positive := rfl
      rw [hmul, eq_zero_of_value hk, Nat.mul_zero, hnone]
      exact ⟨.zero, by simp [value]⟩
    | @finite m' e' hm' hlog' hlow' hhigh' =>
      obtain ⟨hleast, hmost⟩ := log2_mul_bounds hlog hlog' hm hm'
      have hproduct : 2 ^ 52 ≤ m * m' := (Nat.le_log2 (Nat.mul_pos hm hm').ne').mp (by omega)
      have hscaled : ((m * m' : Nat) : ℚ) * 2 ^ (e + e') = (n * k : Nat) * 2 ^ (i + j) := by
        rw [value] at hn hk
        have hpow (i j : Int) : (2 : ℚ) ^ (i + j) = 2 ^ i * 2 ^ j := zpow_add₀ (by norm_num) i j
        rw [Nat.cast_mul, Nat.cast_mul, hpow, hpow, mul_mul_mul_comm, hn, hk, mul_mul_mul_comm]
      rw [← nearest_congr hscaled]
      exact roundWithAccuracy_eq hproduct (by omega) (by omega) hbound

theorem round_eq {n : Nat} (hpos : 0 < n) (h : n < 2 ^ 53) :
    Normal 52 (UnpackedFloat.round .binary64 .positive n 0) ∧
      value (UnpackedFloat.round .binary64 .positive n 0) = n := by
  have hlog : n.log2 ≤ 52 := Nat.le_of_lt_succ ((Nat.log2_lt hpos.ne').mpr h)
  obtain ⟨shift, hshift⟩ := Nat.exists_eq_add_of_le hlog
  have htarget : Format.binary64.targetExponent (totalExponent n 0) = -shift := by
    simp only [Format.targetExponent, totalExponent, Format.mantissaBits, Format.minExponent]
    omega
  have hdecrease : decreaseExponent n 0 (-shift) = (n * 2 ^ shift, (-shift : Int)) := by
    have hamount : (0 - -(shift : Int)).toNat = shift := by omega
    rw [decreaseExponent, hamount, Nat.shiftLeft_eq, Int.zero_sub]
  have hlog' : (n * 2 ^ shift).log2 = 52 := by rw [log2_mul_two_pow hpos.ne', ← hshift]
  have hpos' : 0 < n * 2 ^ shift := Nat.mul_pos hpos (Nat.two_pow_pos shift)
  obtain ⟨hleast, hmost⟩ := (Nat.log2_eq_iff hpos'.ne').mp hlog'
  obtain ⟨hnormal, hvalue⟩ : Normal 52 _ ∧ _ :=
    roundWithAccuracy_eq (e := -shift) hleast (by omega) (by omega) (by decide)
  rw [UnpackedFloat.round, htarget, hdecrease]
  refine ⟨hnormal, hvalue.trans ?_⟩
  rw [nearest_of_lt hmost, Nat.cast_mul, Nat.cast_pow, zpow_neg, zpow_natCast]
  exact mul_inv_cancel_right₀ (pow_ne_zero shift (by norm_num)) _

theorem normal_ofNat {n : Nat} (h : n < 2 ^ 53) :
    Normal 52 (UnpackedFloat.ofNat .binary64 n) ∧ value (UnpackedFloat.ofNat .binary64 n) = n := by
  rcases Nat.eq_zero_or_pos n with rfl | hpos
  · exact ⟨.zero, rfl⟩
  have hcompare : compare (n : Int) 0 = .gt := Int.compare_eq_gt.mpr (by omega)
  rw [UnpackedFloat.ofNat, UnpackedFloat.ofInt, UnpackedFloat.normalize, hcompare]
  exact round_eq hpos h

theorem value_lt_of_exponent_lt {m n : Nat} {e f : Int} (hm : m < 2 ^ 53) (hn : 2 ^ 52 ≤ n)
    (h : e < f) : (m : ℚ) * 2 ^ e < n * 2 ^ f := by
  have hpos : (0 : ℚ) < 2 ^ e := zpow_pos (by norm_num) e
  obtain ⟨k, rfl⟩ := Int.le.dest (Int.add_one_le_of_lt h)
  have hscale : m < n * 2 ^ (1 + k) := by
    have hone : 1 ≤ 2 ^ k := Nat.one_le_two_pow
    have hmul := Nat.mul_le_mul hn hone
    rw [Nat.pow_add, Nat.mul_left_comm]
    omega
  rw [add_assoc, zpow_add₀ (by norm_num), mul_left_comm, mul_comm (m : ℚ)]
  refine mul_lt_mul_of_pos_left ?_ hpos
  exact_mod_cast hscale

theorem value_lt_iff {m n : Nat} {e f : Int} (hm : m.log2 = 52) (hn : n.log2 = 52) (hpos : 0 < m)
    (hpos' : 0 < n) : (m : ℚ) * 2 ^ e < n * 2 ^ f ↔ e < f ∨ e = f ∧ m < n := by
  obtain ⟨hlow, hhigh⟩ := (Nat.log2_eq_iff hpos.ne').mp hm
  obtain ⟨hlow', hhigh'⟩ := (Nat.log2_eq_iff hpos'.ne').mp hn
  rcases Int.lt_trichotomy e f with h | rfl | h
  · simp [value_lt_of_exponent_lt hhigh hlow' h, h]
  · have hscale : (0 : ℚ) < 2 ^ e := zpow_pos (by norm_num) e
    simp [mul_lt_mul_iff_left₀ hscale]
  · have hge := (value_lt_of_exponent_lt hhigh' hlow h).not_gt
    have hne : e ≠ f := by omega
    simp [hge, h.not_gt, hne]

theorem lt_iff_value {u v : UnpackedFloat} {b c : Nat} (hu : Normal b u) (hv : Normal c v) :
    u.lt v = true ↔ value u < value v := by
  have hfinite {m : Nat} {e : Int} (hm : 0 < m) : (0 : ℚ) < m * 2 ^ e :=
    mul_pos (by exact_mod_cast hm) (zpow_pos (by norm_num) e)
  cases hu with
  | zero =>
    cases hv with
    | zero => simp [UnpackedFloat.lt, UnpackedFloat.compare, value]
    | @finite m e hm => simp [UnpackedFloat.lt, UnpackedFloat.compare, value, hfinite hm]
  | @finite m e hm hlog =>
    cases hv with
    | zero => simp [UnpackedFloat.lt, UnpackedFloat.compare, value, (hfinite hm).le]
    | @finite m' e' hm' hlog' =>
      rw [value, value, value_lt_iff hlog hlog' hm hm']
      simp [UnpackedFloat.lt, UnpackedFloat.compare, Ordering.then_eq_lt, Int.compare_eq_lt,
        Nat.compare_eq_lt]

structure Holds (bound : Nat) (x : Float) (n : Nat) (i : Int) : Prop where
  normal : Normal bound x.toModel.unpack
  value : value x.toModel.unpack = n * 2 ^ i

theorem Holds.mul {x y : Float} {b c n k : Nat} {i j : Int} (hx : Holds b x n i)
    (hy : Holds c y k j) (hbound : b + c + 54 ≤ 971) :
    Holds (b + c + 54) (x * y) (nearest (n * k)) (i + j) := by
  obtain ⟨hnormal, hvalue⟩ := mul_normal hx.normal hy.normal (by omega) hx.value hy.value
  have hunpack : (x * y).toModel.unpack = _ := unpack_pack hnormal hbound
  exact ⟨hunpack ▸ hnormal, hunpack ▸ hvalue⟩

theorem Holds.lt_iff {x y : Float} {b c m n : Nat} {i : Int} (hx : Holds b x m i)
    (hy : Holds c y n i) : x < y ↔ m < n := by
  have hlt : x < y ↔ UnpackedFloat.lt x.toModel.unpack y.toModel.unpack = true :=
    decide_eq_true_iff
  rw [hlt, lt_iff_value hx.normal hy.normal, hx.value, hy.value]
  have hpos : (0 : ℚ) < 2 ^ i := zpow_pos (by norm_num) i
  rw [mul_lt_mul_iff_left₀ hpos, Nat.cast_lt]

theorem holds_one : Holds 52 (Float.ofBits 0x3FF0000000000000) 1 0 := by
  have hunpack : (Float.ofBits 0x3FF0000000000000).toModel.unpack =
    .finite .positive (2 ^ 52) (-52) (by decide) := rfl
  refine ⟨?_, ?_⟩ <;> rw [hunpack]
  · exact .finite (by decide) (by decide) (by decide)
  · norm_num [value]

theorem holds_toFloat {n : Nat} (h : n < 2 ^ 53) : Holds 52 n.toUInt64.toFloat n 0 := by
  have hword : n.toUInt64.toNat = n := Nat.mod_eq_of_lt (by omega)
  obtain ⟨hnormal, hvalue⟩ := normal_ofNat h
  have hunpack : n.toUInt64.toFloat.toModel.unpack = UnpackedFloat.ofNat .binary64 n := by
    have hpack := unpack_pack hnormal (by decide)
    rw [← hpack]
    nth_rewrite 2 [← hword]
    rfl
  exact ⟨hunpack ▸ hnormal, by rw [hunpack, hvalue, zpow_zero, mul_one]⟩

theorem holds_ofNat {n : Nat} (h : n < 2 ^ 53) : Holds 158 (Float.ofNat n) n 0 := by
  have hproduct : Float.ofNat n = n.toUInt64.toFloat * Float.ofBits 0x3FF0000000000000 :=
    dif_pos ⟨h, by decide⟩
  have hholds := (holds_toFloat h).mul holds_one (by decide)
  rwa [← hproduct, Nat.mul_one, nearest_of_lt h] at hholds

theorem holds_hundredth : Holds 59 0.01 5764607523034235 (-59) := by
  have hunpack : (0.01 : Float).toModel.unpack =
    .finite .positive 5764607523034235 (-59) (by decide) := rfl
  refine ⟨?_, ?_⟩ <;> rw [hunpack]
  · exact .finite (by decide) (by decide) (by decide)
  · rfl

end ResourceTrace.Binary64
