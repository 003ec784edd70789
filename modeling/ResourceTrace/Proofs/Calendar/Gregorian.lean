import Mathlib.Tactic.IntervalCases
import ResourceTrace.Calendar

set_option autoImplicit false

namespace ResourceTrace.Calendar

def IsLeap (year : Int) : Prop := 4 ∣ year ∧ (¬100 ∣ year ∨ 400 ∣ year)

instance (year : Int) : Decidable (IsLeap year) :=
  inferInstanceAs (Decidable (_ ∧ (_ ∨ _)))

def daysInMonth (year : Int) (month : Nat) : Nat :=
  if month = 2 then (if IsLeap year then 29 else 28)
  else if month = 4 ∨ month = 6 ∨ month = 9 ∨ month = 11 then 30
  else 31

def daysBeforeMonth (year : Int) : Nat → Nat
  | 0 => 0
  | 1 => 0
  | month + 2 => daysBeforeMonth year (month + 1) + daysInMonth year (month + 1)

def daysBeforeYear (year : Int) : Int :=
  365 * year + (year + 3) / 4 - (year + 99) / 100 + (year + 399) / 400

def Date.Valid (d : Date) : Prop :=
  1 ≤ d.month ∧ d.month ≤ 12 ∧ 1 ≤ d.day ∧ d.day ≤ daysInMonth d.year d.month

instance (d : Date) : Decidable d.Valid :=
  inferInstanceAs (Decidable (_ ∧ _ ∧ _ ∧ _))

def dayOfDate (d : Date) : Int :=
  daysBeforeYear d.year + daysBeforeMonth d.year d.month + (d.day - 1) - daysBeforeYear 1970

def ofMarch (year : Int) (days : Nat) : Date :=
  let month := (5 * days + 2) / 153
  let month' := if month < 10 then month + 3 else month - 9
  { year := year + (if month' ≤ 2 then 1 else 0)
    month := month'
    day := days - (153 * month + 2) / 5 + 1 }

/-- Years that begin in March: `c` centuries, `q` times four years and `t` years of 400 years, and
`u` days. Only a year that ends with a leap day has 366 days. -/
structure Cycle (c q t u : Nat) : Prop where
  century : c ≤ 3
  quad : q ≤ 24
  year : t ≤ 3
  day : u ≤ 365
  leap : u = 365 → t = 3 ∧ (q ≠ 24 ∨ c = 3)

theorem exists_cycle {d : Nat} (h : d < 146097) :
    ∃ c q t u, Cycle c q t u ∧ d = 36524 * c + 1461 * q + 365 * t + u := by
  let c := min 3 (d / 36524)
  let q := min 24 ((d - 36524 * c) / 1461)
  let t := min 3 ((d - 36524 * c - 1461 * q) / 365)
  have hc : c = min 3 (d / 36524) := rfl
  have hq : q = min 24 ((d - 36524 * c) / 1461) := rfl
  have ht : t = min 3 ((d - 36524 * c - 1461 * q) / 365) := rfl
  refine ⟨c, q, t, d - 36524 * c - 1461 * q - 365 * t, ⟨?_, ?_, ?_, ?_, ?_⟩, ?_⟩ <;> omega

namespace Cycle

variable {c q t u : Nat}

theorem yearOfEra_eq (h : Cycle c q t u) {d : Nat} (hd : d = 36524 * c + 1461 * q + 365 * t + u) :
    (d - d / 1460 + d / 36524 - d / 146096) / 365 = 100 * c + 4 * q + t := by
  obtain ⟨hc, hq, ht, hu, hleap⟩ := h
  -- The last day is the only one for which the two corrections by centuries differ from `c`.
  by_cases hlast : d = 146096
  · subst hlast
    omega
  · have h₁ : d / 36524 = c := by omega
    have h₂ : d / 146096 = 0 := by omega
    have h₃ : d / 1460 = 25 * c + q ∨ (d / 1460 = 25 * c + q + 1 ∧ t = 3 ∧ 1 ≤ u) := by omega
    rw [h₁, h₂]
    omega

theorem dateOfDay_eq (h : Cycle c q t u) {day era : Int}
    (hday : day + 719468 = 146097 * era + (36524 * c + 1461 * q + 365 * t + u : Nat)) :
    dateOfDay day = ofMarch (era * 400 + (100 * c + 4 * q + t : Nat)) u := by
  have hlt : 36524 * c + 1461 * q + 365 * t + u < 146097 := by
    obtain ⟨hc, hq, ht, hu, hleap⟩ := h
    omega
  obtain ⟨d, hd⟩ : ∃ d, d = 36524 * c + 1461 * q + 365 * t + u := ⟨_, rfl⟩
  rw [← hd] at hday hlt
  have hera : (day + 719468) / 146097 = era := by omega
  have hoe : ((day + 719468) % 146097).toNat = d := by omega
  have hyear := h.yearOfEra_eq hd
  have hdays : d - (365 * (100 * c + 4 * q + t) + (100 * c + 4 * q + t) / 4 -
      (100 * c + 4 * q + t) / 100) = u := by
    obtain ⟨hc, hq, ht, hu, hleap⟩ := h
    have h₁ : (100 * c + 4 * q + t) / 4 = 25 * c + q := by omega
    have h₂ : (100 * c + 4 * q + t) / 100 = c := by omega
    rw [h₁, h₂]
    omega
  unfold dateOfDay ofMarch
  simp only [Int.fdiv_eq_ediv_of_nonneg _ (by decide : (0 : Int) ≤ 146097),
    Int.fmod_eq_emod_of_nonneg _ (by decide : (0 : Int) ≤ 146097), hera, hoe, hyear, hdays]

end Cycle

/-- From March on, the lengths of the months do not depend on the year. -/
theorem daysInMonth_add_three (year : Int) {m : Nat} (h : m ≤ 9) :
    (153 * m + 2) / 5 + daysInMonth year (m + 3) = (153 * (m + 1) + 2) / 5 := by
  interval_cases m <;> rfl

theorem daysBeforeMonth_add_three (year : Int) {m : Nat} (h : m ≤ 9) :
    daysBeforeMonth year (m + 3) = 59 + (if IsLeap year then 1 else 0) + (153 * m + 2) / 5 := by
  induction m with
  | zero => by_cases hl : IsLeap year <;> simp [daysBeforeMonth, daysInMonth, hl]
  | succ m ih =>
    have hstep : daysBeforeMonth year (m + 1 + 3) =
        daysBeforeMonth year (m + 3) + daysInMonth year (m + 3) := rfl
    have hlength := daysInMonth_add_three year (by omega : m ≤ 9)
    rw [hstep, ih (by omega), ← hlength]
    omega

theorem month_of_days {days : Nat} (h : days ≤ 365) :
    (∃ m ≤ 9, (5 * days + 2) / 153 = m) ∨
      ((5 * days + 2) / 153 = 10 ∧ 306 ≤ days ∧ days < 337) ∨
      ((5 * days + 2) / 153 = 11 ∧ 337 ≤ days) := by
  by_cases hm : (5 * days + 2) / 153 ≤ 9
  · exact .inl ⟨_, hm, rfl⟩
  · omega

theorem ofMarch_of_le {days m : Nat} (year : Int) (h : (5 * days + 2) / 153 = m) (hm : m ≤ 9) :
    ofMarch year days = ⟨year, m + 3, days - (153 * m + 2) / 5 + 1⟩ := by
  have hlt : m < 10 := by omega
  have hmonth : ¬m + 3 ≤ 2 := by omega
  simp only [ofMarch, h, hlt, hmonth, if_true, if_false, add_zero]

theorem ofMarch_january {days : Nat} (year : Int) (h : (5 * days + 2) / 153 = 10) :
    ofMarch year days = ⟨year + 1, 1, days - 306 + 1⟩ := by
  simp [ofMarch, h]

theorem ofMarch_february {days : Nat} (year : Int) (h : (5 * days + 2) / 153 = 11) :
    ofMarch year days = ⟨year + 1, 2, days - 337 + 1⟩ := by
  simp [ofMarch, h]

theorem valid_ofMarch {year : Int} {days : Nat} (h : days ≤ 365)
    (hleap : days = 365 → IsLeap (year + 1)) : (ofMarch year days).Valid := by
  rcases month_of_days h with ⟨m, hm, hmonth⟩ | ⟨hmonth, hlow, hhigh⟩ | ⟨hmonth, hlow⟩
  · rw [ofMarch_of_le year hmonth hm]
    have hlength := daysInMonth_add_three year hm
    refine ⟨?_, ?_, ?_, ?_⟩ <;> dsimp only <;> omega
  · rw [ofMarch_january year hmonth]
    have hlength : daysInMonth (year + 1) 1 = 31 := rfl
    refine ⟨?_, ?_, ?_, ?_⟩ <;> dsimp only <;> omega
  · rw [ofMarch_february year hmonth]
    have hlength : daysInMonth (year + 1) 2 = if IsLeap (year + 1) then 29 else 28 := rfl
    have hlast : days - 337 + 1 ≤ daysInMonth (year + 1) 2 := by
      rw [hlength]
      by_cases hday : days = 365
      · rw [if_pos (hleap hday)]
        omega
      · split <;> omega
    refine ⟨?_, ?_, ?_, hlast⟩ <;> dsimp only <;> omega

/-- A year that begins in March counts the leap day that ends it. -/
theorem daysBeforeYear_add_leap (year : Int) :
    daysBeforeYear year + (if IsLeap year then 1 else 0) =
      365 * year + year / 4 - year / 100 + year / 400 + 1 := by
  unfold daysBeforeYear
  by_cases h : IsLeap year
  · rw [if_pos h]
    unfold IsLeap at h
    omega
  · rw [if_neg h]
    unfold IsLeap at h
    omega

theorem dayOfDate_ofMarch (year : Int) {days : Nat} (h : days ≤ 365) :
    dayOfDate (ofMarch year days) =
      365 * year + year / 4 - year / 100 + year / 400 + days - 719468 := by
  rcases month_of_days h with ⟨m, hm, hmonth⟩ | ⟨hmonth, hlow, hhigh⟩ | ⟨hmonth, hlow⟩
  · rw [ofMarch_of_le year hmonth hm]
    have hbefore := daysBeforeMonth_add_three year hm
    have hyear := daysBeforeYear_add_leap year
    have hbase : daysBeforeYear 1970 = 719528 := by decide
    have hmonthDay : (153 * m + 2) / 5 ≤ days := by omega
    simp only [dayOfDate, hbase, hbefore]
    by_cases hl : IsLeap year
    · rw [if_pos hl] at hyear ⊢
      omega
    · rw [if_neg hl] at hyear ⊢
      omega
  · rw [ofMarch_january year hmonth]
    have hbefore : daysBeforeMonth (year + 1) 1 = 0 := rfl
    simp only [dayOfDate, hbefore, daysBeforeYear]
    omega
  · rw [ofMarch_february year hmonth]
    have hbefore : daysBeforeMonth (year + 1) 2 = 31 := rfl
    simp only [dayOfDate, hbefore, daysBeforeYear]
    omega

theorem exists_ofMarch (day : Int) : ∃ year : Int, ∃ days ≤ 365,
    (days = 365 → IsLeap (year + 1)) ∧ dateOfDay day = ofMarch year days ∧
      365 * year + year / 4 - year / 100 + year / 400 + days - 719468 = day := by
  obtain ⟨era, hera⟩ : ∃ era, era = (day + 719468) / 146097 := ⟨_, rfl⟩
  obtain ⟨c, q, t, u, hcycle, hd⟩ :=
    exists_cycle (by omega : ((day + 719468) % 146097).toNat < 146097)
  have hday : day + 719468 = 146097 * era + (36524 * c + 1461 * q + 365 * t + u : Nat) := by omega
  obtain ⟨hc, hq, ht, hu, hleap⟩ := id hcycle
  refine ⟨era * 400 + (100 * c + 4 * q + t : Nat), u, hu, fun h => ?_, hcycle.dateOfDay_eq hday, ?_⟩
  · obtain ⟨ht', hlast⟩ := hleap h
    unfold IsLeap
    omega
  · have h₁ : (era * 400 + (100 * c + 4 * q + t : Nat)) / 4 = era * 100 + (25 * c + q : Nat) := by
      omega
    have h₂ : (era * 400 + (100 * c + 4 * q + t : Nat)) / 100 = era * 4 + c := by omega
    have h₃ : (era * 400 + (100 * c + 4 * q + t : Nat)) / 400 = era := by omega
    rw [h₁, h₂, h₃]
    omega

theorem valid_dateOfDay (day : Int) : (dateOfDay day).Valid := by
  obtain ⟨year, days, hdays, hleap, hdate, -⟩ := exists_ofMarch day
  rw [hdate]
  exact valid_ofMarch hdays hleap

theorem dayOfDate_dateOfDay (day : Int) : dayOfDate (dateOfDay day) = day := by
  obtain ⟨year, days, hdays, -, hdate, hday⟩ := exists_ofMarch day
  rw [hdate, dayOfDate_ofMarch year hdays, hday]

end ResourceTrace.Calendar
