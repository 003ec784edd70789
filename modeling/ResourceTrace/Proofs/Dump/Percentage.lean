import ResourceTrace.Dump.Filter
import ResourceTrace.Pattern.Interpreter
import ResourceTrace.Proofs.Binary64.Arithmetic

/-!
The gate on growth by a percentage. The factor is not exact, and neither is its product with the
last total, but both are rounded so little that the gate is wrong only where the total is the
percentage exactly. There it may be closed although it should be open.
-/

set_option autoImplicit false

namespace ResourceTrace.DumpFilter

open Binary64

/-- No other gate than the one on growth by this percentage is closed. -/
structure GatesAt (f : DumpFilter) (percentage : Nat) : Prop where
  minSize : f.minSize ≤ 0
  minIncrease : f.minIncrease < 0
  minShare : f.minShare = share percentage

theorem gatesAt_readBounds [PatternEngine] {o : OptionLine} {p : Nat}
    (hsize : (o.size "minSize" 0).value ≤ 0) (hincrease : (o.size "minIncrease" (-1)).value < 0)
    (hpercentage : (o.long "minPercentage" 0).value = p) (maxFrames : Int) :
    (readBounds o maxFrames).value.GatesAt p :=
  ⟨hsize, hincrease, congrArg share hpercentage⟩

/-- The digits of the floating-point number next to one hundredth, which is a little greater. -/
def hundredth : Nat := 5764607523034235

/-- The least total that passes the gate, with 59 binary places. -/
def threshold (percentage last : Nat) : Nat := nearest (last * nearest (hundredth * percentage))

variable {f : DumpFilter} {p total last : Nat}

theorem holds_threshold (hp : p < 2 ^ 53) (hlast : last < 2 ^ 53) :
    Holds 483 (Float.ofNat last * share p) (threshold p last) (-59) := by
  have hshare : Holds 271 (share p) (nearest (hundredth * p)) (-59) :=
    holds_hundredth.mul (holds_ofNat hp) (by decide)
  exact (holds_ofNat hlast).mul hshare (by decide)

theorem holds_total (htotal : total < 2 ^ 53) :
    Holds 158 (Float.ofNat total) (total * 2 ^ 59) (-59) := by
  obtain ⟨hnormal, hvalue⟩ := holds_ofNat htotal
  refine ⟨hnormal, hvalue.trans ?_⟩
  rw [Nat.cast_mul, Nat.cast_pow, zpow_zero, mul_one]
  exact (mul_inv_cancel_right₀ (pow_ne_zero 59 (by norm_num)) _).symm

theorem shouldDump_iff (h : f.GatesAt p) (hp : p < 2 ^ 53) (htotal : total < 2 ^ 53)
    (hlast : last < 2 ^ 53) :
    f.shouldDump total last = true ↔ threshold p last ≤ total * 2 ^ 59 := by
  have hlt := (holds_total htotal).lt_iff (holds_threshold hp hlast)
  have hsize : ¬(total : Int) < f.minSize := by have := h.minSize; omega
  have hincrease : ¬0 ≤ f.minIncrease := by have := h.minIncrease; omega
  rw [shouldDump, if_neg hsize, h.minShare]
  by_cases hgate : Float.ofNat total < Float.ofNat last * share p
  · rw [if_pos hgate]
    exact iff_of_false Bool.false_ne_true (Nat.not_le.mpr (hlt.mp hgate))
  · rw [if_neg hgate]
    exact iff_of_true (by simp [hincrease]) (Nat.le_of_not_lt (mt hlt.mpr hgate))

/-- Both roundings together change the threshold by little more than two parts in `2 ^ 53`. -/
theorem threshold_bounds (p last : Nat) :
    ∃ share, 2 ^ 53 * share ≤ (2 ^ 53 + 1) * (hundredth * (p * last)) ∧
      2 ^ 53 * (hundredth * (p * last)) ≤ 2 ^ 53 * share + hundredth * (p * last) ∧
      2 ^ 53 * threshold p last ≤ (2 ^ 53 + 1) * share ∧
      2 ^ 53 * share ≤ 2 ^ 53 * threshold p last + share := by
  obtain ⟨hupper, hlower⟩ := nearest_error (hundredth * p)
  refine ⟨last * nearest (hundredth * p), ?_, ?_, nearest_error _⟩
  · calc 2 ^ 53 * (last * nearest (hundredth * p))
        = 2 ^ 53 * nearest (hundredth * p) * last := by ring
      _ ≤ (2 ^ 53 + 1) * (hundredth * p) * last := Nat.mul_le_mul_right last hupper
      _ = (2 ^ 53 + 1) * (hundredth * (p * last)) := by ring
  · calc 2 ^ 53 * (hundredth * (p * last))
        = 2 ^ 53 * (hundredth * p) * last := by ring
      _ ≤ (2 ^ 53 * nearest (hundredth * p) + hundredth * p) * last :=
        Nat.mul_le_mul_right last hlower
      _ = 2 ^ 53 * (last * nearest (hundredth * p)) + hundredth * (p * last) := by ring

theorem threshold_le_of_lt (htotal : total < 2 ^ 40) (h : p * last < 100 * total) :
    threshold p last ≤ total * 2 ^ 59 := by
  obtain ⟨share, hshare, -, hthreshold, -⟩ := threshold_bounds p last
  -- the sides of `h` differ by 1 at least, and the roundings change them by much less
  rw [hundredth] at hshare
  omega

theorem lt_threshold_of_lt (htotal : total < 2 ^ 40) (h : 100 * total < p * last) :
    total * 2 ^ 59 < threshold p last := by
  obtain ⟨share, -, hshare, -, hthreshold⟩ := threshold_bounds p last
  rw [hundredth] at hshare
  omega

theorem nearest_hundredth_mul {q : Nat} (hq : q ≤ 10000) :
    nearest (hundredth * (100 * q)) = q * 2 ^ 59 := by
  rcases Nat.eq_zero_or_pos q with rfl | hpos
  · decide
  have hn : hundredth * (100 * q) = q * 2 ^ 59 + 12 * q := by rw [hundredth]; omega
  have hsmall : (hundredth * (100 * q)).log2 < 112 := (Nat.log2_lt (by omega)).mpr (by omega)
  have hdvd : spacing (hundredth * (100 * q)) ∣ q * 2 ^ 59 :=
    (Nat.pow_dvd_pow 2 (by omega)).mul_left q
  have hspacing := lt_mul_spacing (hundredth * (100 * q))
  exact nearest_of_close hdvd (by omega) (by omega)

theorem threshold_hundreds {q : Nat} (hq : q ≤ 10000) (htotal : total < 2 ^ 53)
    (h : q * last = total) : threshold (100 * q) last = total * 2 ^ 59 := by
  rw [threshold, nearest_hundredth_mul hq, ← Nat.mul_assoc, Nat.mul_comm last, h,
    nearest_mul_two_pow, nearest_of_lt htotal]

/-- For totals of less than a tebibyte the gate is open where the total is more than the percentage
of the last one, and closed where it is less. Where it is the percentage exactly, the gate goes by
the rounded threshold, and is sure to be open for whole multiples of a hundred percent only. -/
theorem shouldDump_of_percentage (h : f.GatesAt p) (hp : p ≤ 1000000) (htotal : total < 2 ^ 40)
    (hlast : last < 2 ^ 40) :
    (f.shouldDump total last = true ↔ threshold p last ≤ total * 2 ^ 59) ∧
    (p * last < 100 * total → f.shouldDump total last = true) ∧
    (100 * total < p * last → f.shouldDump total last = false) ∧
    (100 ∣ p → (f.shouldDump total last = true ↔ p * last ≤ 100 * total)) := by
  have hiff : f.shouldDump total last = true ↔ threshold p last ≤ total * 2 ^ 59 :=
    shouldDump_iff h (by omega) (by omega) (by omega)
  have habove (hlt : p * last < 100 * total) : f.shouldDump total last = true :=
    hiff.mpr (threshold_le_of_lt htotal hlt)
  have hbelow (hlt : 100 * total < p * last) : f.shouldDump total last = false :=
    Bool.eq_false_iff.mpr fun hdump => (lt_threshold_of_lt htotal hlt).not_ge (hiff.mp hdump)
  refine ⟨hiff, habove, hbelow, fun hdvd => ?_⟩
  obtain ⟨q, rfl⟩ := hdvd
  rcases Nat.lt_trichotomy (100 * q * last) (100 * total) with hlt | heq | hgt
  · exact iff_of_true (habove hlt) hlt.le
  · have hexact : q * last = total := by rw [Nat.mul_assoc] at heq; omega
    rw [hiff, threshold_hundreds (by omega) (by omega) hexact]
    exact iff_of_true (Nat.le_refl _) heq.le
  · exact iff_of_false (Bool.eq_false_iff.mp (hbelow hgt)) hgt.not_ge

theorem shouldDump_of_three_hundred_percent :
    let f := (readBounds (OptionLine.parse "minPercentage=300") defaultMaxFrames).value
    f.GatesAt 300 ∧ f.shouldDump 300 100 = true ∧ f.shouldDump 299 100 = false := by
  intro f
  have h : f.GatesAt 300 := gatesAt_readBounds (by decide) (by decide) rfl _
  have hexact : f.shouldDump 300 100 = true ↔ 300 * 100 ≤ 100 * 300 :=
    (shouldDump_of_percentage h (by decide) (by decide) (by decide)).2.2.2 (by decide)
  have hbelow : f.shouldDump 299 100 = false :=
    (shouldDump_of_percentage h (by decide) (by decide) (by decide)).2.2.1 (by decide)
  exact ⟨h, hexact.mpr (by decide), hbelow⟩

/-- The total is seven percent of the last one, but seven hundredths are rounded up. -/
theorem seven_percent_refused :
    let f := (readBounds (OptionLine.parse "minPercentage=7") defaultMaxFrames).value
    f.GatesAt 7 ∧ 7 * 100 ≤ 100 * 7 ∧ f.shouldDump 7 100 = false := by
  intro f
  have h : f.GatesAt 7 := gatesAt_readBounds (by decide) (by decide) rfl _
  refine ⟨h, by decide, Bool.eq_false_iff.mpr fun hdump => ?_⟩
  have hthreshold := (shouldDump_iff h (by decide) (by decide) (by decide)).mp hdump
  exact absurd hthreshold (by decide)

end ResourceTrace.DumpFilter
