import Mathlib.Data.List.Induction
import ResourceTrace.Proofs.Magnitude.Segments

set_option autoImplicit false

namespace ResourceTrace

def Numeral.InWord (i : Int) : Prop := minInt64 ≤ i ∧ i ≤ maxInt64

instance (i : Int) : Decidable (Numeral.InWord i) :=
  inferInstanceAs (Decidable (_ ∧ _))

namespace Magnitude

open Numeral (InWord)

def factor? (units : Units) : Option Char → Option Nat
  | none => some 1
  | some unit => units.lookup unit

namespace Segment

/-- The digits times the factor, however large; a unit outside the table counts nothing. -/
def scaled (units : Units) (s : Segment) : Nat :=
  Numeral.value s.digits * (factor? units s.unit).getD 0

def exact (units : Units) (s : Segment) : Int :=
  if s.negative then -(s.scaled units : Int) else s.scaled units

end Segment

def total (units : Units) : List Segment → Int
  | [] => 0
  | s :: ss => s.exact units + total units ss

theorem total_append (units : Units) (ss ts : List Segment) :
    total units (ss ++ ts) = total units ss + total units ts := by
  induction ss with
  | nil => simp [total]
  | cons s ss ih =>
    simp only [List.cons_append, total, ih]
    omega

/-- What is wrong with a segment behind segments of the sum `before`. -/
inductive Fault (units : Units) (text : String) (before : Int) (s : Segment) :
    OptionError → Prop where
  | digits : Numeral.maxInt64 < Numeral.value s.digits → Fault units text before s (.outOfRange text)
  | unit {u : Char} : Numeral.value s.digits ≤ Numeral.maxInt64 → s.unit = some u →
      factor? units (some u) = none → Fault units text before s (.unknownUnit u)
  | product {factor : Nat} : Numeral.value s.digits ≤ Numeral.maxInt64 →
      factor? units s.unit = some factor → Numeral.maxInt64 < s.scaled units →
      Fault units text before s (.outOfRange text)
  | sum {factor : Nat} : Numeral.value s.digits ≤ Numeral.maxInt64 →
      factor? units s.unit = some factor → s.scaled units ≤ Numeral.maxInt64 →
      ¬InWord (before + s.exact units) → Fault units text before s (.outOfRange text)

def Faultless (units : Units) (text : String) (ss : List Segment) : Prop :=
  ∀ earlier s later e, ss = earlier ++ s :: later → ¬Fault units text (total units earlier) s e

theorem lookup_eq_map_find? (units : Units) (unit : Char) :
    units.lookup unit = (units.find? fun entry => entry.1 == unit).map Prod.snd := by
  induction units with
  | nil => rfl
  | cons entry units ih =>
    obtain ⟨u, factor⟩ := entry
    by_cases h : unit = u
    · simp [h]
    · have hne : (unit == u) = false := beq_eq_false_iff_ne.mpr h
      simp [List.lookup_cons, hne, Ne.symm h, ih]

theorem scale_of_factor? {units : Units} {unit : Option Char} {factor : Nat}
    (h : factor? units unit = some factor) : scale units unit = .ok factor := by
  cases unit with
  | none =>
    rw [factor?, Option.some.injEq] at h
    rw [scale, h]
  | some u =>
    rw [factor?, lookup_eq_map_find?, Option.map_eq_some_iff] at h
    obtain ⟨entry, hentry, rfl⟩ := h
    rw [scale, hentry]

theorem scale_of_unknown {units : Units} {u : Char} (h : factor? units (some u) = none) :
    scale units (some u) = .error (.unknownUnit u) := by
  rw [factor?, lookup_eq_map_find?, Option.map_eq_none_iff] at h
  rw [scale, h]

theorem within_of_inWord {text : String} {i : Int} (h : InWord i) : within text i = .ok i :=
  if_pos h

theorem within_of_not_inWord {text : String} {i : Int} (h : ¬InWord i) :
    within text i = .error (.outOfRange text) :=
  if_neg h

theorem inWord_natCast {n : Nat} : InWord n ↔ (n : Int) ≤ Numeral.maxInt64 := by
  refine ⟨fun h => h.2, fun h => ⟨?_, h⟩⟩
  simp only [Numeral.minInt64]
  omega

theorem within_of_lt {text : String} {n : Nat} (h : Numeral.maxInt64 < n) :
    within text n = .error (.outOfRange text) :=
  within_of_not_inWord fun hn => absurd hn.2 (Int.not_le.mpr h)

section

variable {units : Units} {text : String} {before : Int} {s : Segment}

theorem scaled_of_factor? {factor : Nat} (h : factor? units s.unit = some factor) :
    s.scaled units = Numeral.value s.digits * factor := by
  rw [Segment.scaled, h, Option.getD_some]

theorem add_of_scaled {factor : Nat} (hdigits : Numeral.value s.digits ≤ Numeral.maxInt64)
    (hunit : factor? units s.unit = some factor) (hscaled : s.scaled units ≤ Numeral.maxInt64) :
    add units text before s = within text (before + s.exact units) := by
  have hproduct : within text ((Numeral.value s.digits : Int) * factor) = .ok (s.scaled units) := by
    rw [← Int.natCast_mul, ← scaled_of_factor? hunit]
    exact within_of_inWord (inWord_natCast.mpr hscaled)
  have hamount : s.amount units text = .ok (s.exact units) := by
    rw [Segment.amount, within_of_inWord (inWord_natCast.mpr hdigits), scale_of_factor? hunit]
    simp only [bind, Except.bind, hproduct, Segment.exact]
    rfl
  rw [add, hamount]
  rfl

theorem add_of_fault {e : OptionError} (h : Fault units text before s e) :
    add units text before s = .error e := by
  cases h with
  | digits hdigits =>
    rw [add, Segment.amount, within_of_lt hdigits]
    rfl
  | unit hdigits hunit hunknown =>
    rw [add, Segment.amount, within_of_inWord (inWord_natCast.mpr hdigits), hunit,
      scale_of_unknown hunknown]
    rfl
  | product hdigits hunit hproduct =>
    have hwithin : within text (s.scaled units) = .error (.outOfRange text) := within_of_lt hproduct
    rw [scaled_of_factor? hunit, Int.natCast_mul] at hwithin
    rw [add, Segment.amount, within_of_inWord (inWord_natCast.mpr hdigits), scale_of_factor? hunit]
    simp only [bind, Except.bind, hwithin]
  | sum hdigits hunit hproduct hsum =>
    rw [add_of_scaled hdigits hunit hproduct, within_of_not_inWord hsum]

theorem add_of_sound (h : ∀ e, ¬Fault units text before s e) :
    add units text before s = .ok (before + s.exact units) := by
  have hdigits : Numeral.value s.digits ≤ Numeral.maxInt64 :=
    Int.not_lt.mp fun hlt => h _ (.digits hlt)
  obtain ⟨factor, hunit⟩ : ∃ factor, factor? units s.unit = some factor := by
    refine Option.ne_none_iff_exists'.mp fun hnone => ?_
    cases hu : s.unit with
    | none => simp [hu, factor?] at hnone
    | some u => exact h _ (.unit hdigits hu (hu ▸ hnone))
  have hproduct : s.scaled units ≤ Numeral.maxInt64 :=
    Int.not_lt.mp fun hlt => h _ (.product hdigits hunit hlt)
  have hsum : InWord (before + s.exact units) :=
    Classical.not_not.mp fun hout => h _ (.sum hdigits hunit hproduct hout)
  rw [add_of_scaled hdigits hunit hproduct, within_of_inWord hsum]

end

section

variable {units : Units} {text : String} {ss : List Segment}

theorem Faultless.of_append {ts : List Segment} (h : Faultless units text (ss ++ ts)) :
    Faultless units text ss := fun earlier s later e hss =>
  h earlier s (later ++ ts) e (by rw [hss, List.append_assoc, List.cons_append])

theorem faultless_concat {s : Segment} (hss : Faultless units text ss)
    (hs : ∀ e, ¬Fault units text (total units ss) s e) : Faultless units text (ss ++ [s]) := by
  intro earlier t later e hsplit
  rcases List.eq_nil_or_concat later with rfl | ⟨front, last, rfl⟩
  · obtain ⟨rfl, ht⟩ := List.append_inj' hsplit rfl
    rw [← (List.cons.inj ht).1]
    exact hs e
  · have hlast : ss ++ [s] = (earlier ++ t :: front) ++ [last] := by simpa using hsplit
    exact hss earlier t front e (List.append_inj' hlast rfl).1

theorem foldlM_of_faultless (h : Faultless units text ss) :
    ss.foldlM (add units text) 0 = .ok (total units ss) := by
  induction ss using List.reverseRecOn with
  | nil => rfl
  | append_singleton ss s ih =>
    rw [List.foldlM_append, ih h.of_append, total_append]
    simp only [bind, Except.bind, List.foldlM_cons, List.foldlM_nil]
    rw [add_of_sound fun e => h ss s [] e rfl, total, total, Int.add_zero]
    rfl

theorem foldlM_of_fault {earlier later : List Segment} {s : Segment} {e : OptionError}
    (hearlier : Faultless units text earlier) (hs : Fault units text (total units earlier) s e) :
    (earlier ++ s :: later).foldlM (add units text) 0 = .error e := by
  rw [List.foldlM_append, foldlM_of_faultless hearlier]
  simp only [bind, Except.bind, List.foldlM_cons, add_of_fault hs]

theorem exists_fault (h : ¬Faultless units text ss) :
    ∃ earlier s later e, ss = earlier ++ s :: later ∧ Faultless units text earlier ∧
      Fault units text (total units earlier) s e := by
  induction ss using List.reverseRecOn with
  | nil =>
    refine absurd (fun earlier s later e hnil => ?_) h
    simp at hnil
  | append_singleton ss s ih =>
    by_cases hss : Faultless units text ss
    · by_cases hs : ∀ e, ¬Fault units text (total units ss) s e
      · exact absurd (faultless_concat hss hs) h
      · obtain ⟨e, he⟩ := Classical.not_forall.mp hs
        exact ⟨ss, s, [], e, rfl, hss, Classical.not_not.mp he⟩
    · obtain ⟨earlier, t, later, e, hsplit, hearlier, ht⟩ := ih hss
      exact ⟨earlier, t, later ++ [s], e, by simp [hsplit], hearlier, ht⟩

theorem foldlM_eq_ok_iff (n : Int) :
    ss.foldlM (add units text) 0 = .ok n ↔ Faultless units text ss ∧ n = total units ss := by
  constructor
  · intro h
    by_cases hss : Faultless units text ss
    · rw [foldlM_of_faultless hss, Except.ok.injEq] at h
      exact ⟨hss, h.symm⟩
    · obtain ⟨earlier, s, later, e, rfl, hearlier, hs⟩ := exists_fault hss
      rw [foldlM_of_fault hearlier hs] at h
      cases h
  · rintro ⟨hss, rfl⟩
    exact foldlM_of_faultless hss

theorem foldlM_eq_error_iff (e : OptionError) :
    ss.foldlM (add units text) 0 = .error e ↔
      ∃ earlier s later, ss = earlier ++ s :: later ∧ Faultless units text earlier ∧
        Fault units text (total units earlier) s e := by
  constructor
  · intro h
    by_cases hss : Faultless units text ss
    · rw [foldlM_of_faultless hss] at h
      cases h
    · obtain ⟨earlier, s, later, found, rfl, hearlier, hs⟩ := exists_fault hss
      rw [foldlM_of_fault hearlier hs, Except.error.injEq] at h
      exact ⟨earlier, s, later, rfl, hearlier, h ▸ hs⟩
  · rintro ⟨earlier, s, later, rfl, hearlier, hs⟩
    exact foldlM_of_fault hearlier hs

end

end Magnitude

end ResourceTrace
