import Mathlib.Data.List.Chain
import Mathlib.Data.List.Infix
import ResourceTrace.Proofs.Magnitude.Word

/-!
Magnitudes that are written by the rule: segments of digits with an optional sign and at most one
unit each. They are read as they are written if only the last one lacks a unit; in front of a
further segment the missing unit is sought in that segment's sign.
-/

set_option autoImplicit false

namespace ResourceTrace.Magnitude

open Numeral (IsRun InWord)

/-- Segments as the rule has them. A run of digits is taken whole, so that no digit follows where
a unit is left out. -/
structure Written (units : Units) (ss : List Segment) : Prop where
  ne_nil : ss ≠ []
  run : ∀ s ∈ ss, IsRun s.digits
  known : ∀ s ∈ ss, factor? units s.unit ≠ none
  whole : ss.IsChain fun s t => s.unit = none → t.negative = true

structure Fits (units : Units) (ss : List Segment) : Prop where
  digits : ∀ s ∈ ss, Numeral.value s.digits ≤ Numeral.maxInt64
  scaled : ∀ s ∈ ss, s.scaled units ≤ Numeral.maxInt64
  sums : ∀ earlier, earlier <+: ss → InWord (total units earlier)

def text (ss : List Segment) : String := String.ofList (ss.flatMap Segment.chars)

theorem mem_keys_of_factor? {units : Units} {u : Char} (h : factor? units (some u) ≠ none) :
    u ∈ units.map Prod.fst := by
  rw [factor?, lookup_eq_map_find?, Ne, Option.map_eq_none_iff] at h
  obtain ⟨entry, hentry⟩ := Option.ne_none_iff_exists'.mp h
  have hkey : entry.1 = u := by simpa using List.find?_some hentry
  rw [← hkey]
  exact List.mem_map_of_mem (List.mem_of_find?_eq_some hentry)

section

variable {units : Units} (hunits : units ∈ tables)
include hunits

theorem unit_isDigit {u : Char} (h : factor? units (some u) ≠ none) : u.isDigit = false := by
  have hall : tables.all (fun units => units.all fun entry => !entry.1.isDigit) = true := rfl
  obtain ⟨entry, hentry, rfl⟩ := List.mem_map.mp (mem_keys_of_factor? h)
  have hdigit := List.all_eq_true.mp (List.all_eq_true.mp hall units hunits) entry hentry
  simpa using hdigit

theorem factor?_sign : factor? units (some '-') = none := by
  have hall : tables.all (fun units => units.all fun entry => entry.1 != '-') = true := rfl
  by_contra h
  obtain ⟨entry, hentry, hkey⟩ := List.mem_map.mp (mem_keys_of_factor? h)
  have hne := List.all_eq_true.mp (List.all_eq_true.mp hall units hunits) entry hentry
  simp [hkey] at hne

theorem cutBefore_of_run {s : Segment} {rest : List Char} (hrun : IsRun s.digits)
    (hknown : factor? units s.unit ≠ none) (hlast : s.unit = none → rest = []) :
    s.CutBefore rest := by
  refine ⟨hrun.isDigit, fun u hu => ?_, fun _ hnil => absurd hnil hrun.ne_nil, hlast, ?_⟩
  · rw [Option.mem_def.mp hu] at hknown
    exact unit_isDigit hunits hknown
  · simp [Segment.chars, hrun.ne_nil]

theorem segments_flatMap_append {ss : List Segment} (hrun : ∀ s ∈ ss, IsRun s.digits)
    (hknown : ∀ s ∈ ss, factor? units s.unit ≠ none) (hunit : ∀ s ∈ ss, s.unit ≠ none)
    (rest : List Char) : segments (ss.flatMap Segment.chars ++ rest) = ss ++ segments rest := by
  induction ss with
  | nil => rfl
  | cons s ss ih =>
    simp only [List.forall_mem_cons] at hrun hknown hunit
    have hcut : s.CutBefore (ss.flatMap Segment.chars ++ rest) :=
      cutBefore_of_run hunits hrun.1 hknown.1 fun hnone => absurd hnone hunit.1
    rw [List.flatMap_cons, List.append_assoc, segments_append hcut,
      ih hrun.2 hknown.2 hunit.2, List.cons_append]

end

theorem exists_plain {ss : List Segment} (h : ss ≠ []) :
    ∃ earlier s later, ss = earlier ++ s :: later ∧ (∀ t ∈ earlier, t.unit ≠ none) ∧
      (later ≠ [] → s.unit = none) := by
  induction ss with
  | nil => exact absurd rfl h
  | cons s ss ih =>
    by_cases hplain : ss ≠ [] → s.unit = none
    · exact ⟨[], s, ss, rfl, by simp, hplain⟩
    · obtain ⟨hne, hunit⟩ := Classical.not_imp.mp hplain
      obtain ⟨earlier, t, later, rfl, hearlier, ht⟩ := ih hne
      exact ⟨s :: earlier, t, later, rfl, List.forall_mem_cons.mpr ⟨hunit, hearlier⟩, ht⟩

theorem Written.faultless {units : Units} {ss : List Segment} {written : String}
    (h : Written units ss) (hfits : Fits units ss) : Faultless units written ss := by
  rintro earlier s later e rfl hfault
  have hmem : s ∈ earlier ++ s :: later := by simp
  cases hfault with
  | digits hdigits => exact absurd (hfits.digits s hmem) (Int.not_le.mpr hdigits)
  | unit _ hunit hunknown => exact h.known s hmem (hunit ▸ hunknown)
  | product _ _ hproduct => exact absurd (hfits.scaled s hmem) (Int.not_le.mpr hproduct)
  | sum _ _ _ hsum =>
    refine hsum ?_
    have hsums := hfits.sums (earlier ++ [s]) ⟨later, by simp⟩
    rwa [total_append, total, total, Int.add_zero] at hsums

/-- The segment takes the sign behind it for its unit. -/
theorem cutBefore_sign {s : Segment} (hrun : IsRun s.digits) (rest : List Char) :
    ({ s with unit := some '-' } : Segment).CutBefore rest :=
  ⟨hrun.isDigit, by simp, fun _ hnil => absurd hnil hrun.ne_nil, by simp, by simp [Segment.chars]⟩

/-- Texts of the rule with numbers in range: they have their sum for an answer, unless a segment
without a unit stands in front of another one. -/
theorem parse_written {units : Units} (hunits : units ∈ tables) {ss : List Segment}
    (h : Written units ss) (hfits : Fits units ss) :
    parse units (text ss) =
      if ∃ s ∈ ss.dropLast, s.unit = none then .error (.unknownUnit '-')
      else .ok (total units ss) := by
  have hfaultless : Faultless units (text ss) ss := h.faultless hfits
  have hparse : parse units (text ss) =
      (segments (ss.flatMap Segment.chars)).foldlM (add units (text ss)) 0 := by
    rw [parse, text, String.toList_ofList]
  -- Everything is decided at the first segment without a unit, be it the last one.
  obtain ⟨earlier, s, later, rfl, hunit, hplain⟩ := exists_plain h.ne_nil
  rw [hparse]
  have hcut := segments_flatMap_append hunits (fun t ht => h.run t (by simp [ht]))
    (fun t ht => h.known t (by simp [ht])) hunit
  have hs := h.run s (by simp)
  cases later with
  | nil =>
    have hlast : s.CutBefore [] := cutBefore_of_run hunits hs (h.known s (by simp)) fun _ => rfl
    have hsegments : segments ((earlier ++ [s]).flatMap Segment.chars) = earlier ++ [s] := by
      rw [List.flatMap_append, hcut, List.flatMap_singleton, ← List.append_nil s.chars,
        segments_append hlast, segments]
    have hno : ¬∃ t ∈ (earlier ++ [s]).dropLast, t.unit = none := by simpa using hunit
    rw [hsegments, if_neg hno, foldlM_of_faultless hfaultless]
  | cons t later =>
    have hnone : s.unit = none := hplain (by simp)
    have hsign : t.negative = true := (List.isChain_append_cons_cons.mp h.whole).2.1 hnone
    have hchars : (earlier ++ s :: t :: later).flatMap Segment.chars =
        earlier.flatMap Segment.chars ++ (({ s with unit := some '-' } : Segment).chars ++
          (t.digits ++ t.unit.toList ++ later.flatMap Segment.chars)) := by
      simp [Segment.chars, hnone, hsign]
    have hyes : ∃ t' ∈ (earlier ++ s :: t :: later).dropLast, t'.unit = none :=
      ⟨s, by simp, hnone⟩
    rw [hchars, hcut, segments_append (cutBefore_sign hs _), if_pos hyes]
    exact foldlM_of_fault hfaultless.of_append
      (.unit (hfits.digits s (by simp)) rfl (factor?_sign hunits))

theorem fits_of_inits {units : Units} {ss : List Segment}
    (hnumbers : ∀ s ∈ ss, Numeral.value s.digits ≤ Numeral.maxInt64 ∧
      s.scaled units ≤ Numeral.maxInt64)
    (hsums : ∀ earlier ∈ ss.inits, InWord (total units earlier)) : Fits units ss :=
  ⟨fun s hs => (hnumbers s hs).1, fun s hs => (hnumbers s hs).2,
    fun earlier h => hsums earlier ((List.mem_inits _ _).mpr h)⟩

/-- A unit, another one behind a sign, and the largest number without a unit. -/
def mixed : List Segment :=
  [⟨false, ['1'], some 'M'⟩, ⟨true, ['2'], some 'k'⟩,
    ⟨true, "09223372036854775807".toList, none⟩]

theorem parse_written_mixed :
    sizeUnits ∈ tables ∧ Written sizeUnits mixed ∧ Fits sizeUnits mixed ∧
      parse sizeUnits "1M-2k-09223372036854775807" = .ok (-9223372036853729279) := by
  have hunits : sizeUnits ∈ tables := List.mem_cons_self
  have hwritten : Written sizeUnits mixed :=
    ⟨by simp [mixed], by simp [mixed, Numeral.isRun_iff], by decide, by simp [mixed]⟩
  have hfits : Fits sizeUnits mixed := fits_of_inits (by decide) (by decide)
  have hparse := parse_written hunits hwritten hfits
  have htext : text mixed = "1M-2k-09223372036854775807" := by decide
  rw [htext] at hparse
  exact ⟨hunits, hwritten, hfits, hparse⟩

def difference : List Segment := [⟨false, ['5'], none⟩, ⟨true, ['3'], none⟩]

theorem difference_refused :
    Written sizeUnits difference ∧ Fits sizeUnits difference ∧ text difference = "5-3" ∧
      total sizeUnits difference = 2 ∧ parse sizeUnits "5-3" = .error (.unknownUnit '-') := by
  have hwritten : Written sizeUnits difference :=
    ⟨by simp [difference], by simp [difference, Numeral.isRun_iff], by decide,
      by simp [difference]⟩
  have hsegments : segments "5-3".toList = [⟨false, ['5'], some '-'⟩, ⟨false, ['3'], none⟩] := by
    simp [segments, Segment.read, Segment.rest, dropSign]
  refine ⟨hwritten, fits_of_inits (by decide) (by decide), by decide, by decide, ?_⟩
  rw [parse, hsegments]
  rfl

end ResourceTrace.Magnitude
