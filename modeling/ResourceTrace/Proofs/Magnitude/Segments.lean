import ResourceTrace.Magnitude
import ResourceTrace.Proofs.Text.Digits

set_option autoImplicit false

namespace ResourceTrace.Magnitude

namespace Segment

def chars (s : Segment) : List Char :=
  (if s.negative then ['-'] else []) ++ s.digits ++ s.unit.toList

structure CutBefore (rest : List Char) (s : Segment) : Prop where
  isDigit : ∀ c ∈ s.digits, c.isDigit = true
  unit_isDigit : ∀ c ∈ s.unit, c.isDigit = false
  unit_ne_sign : s.negative = false → s.digits = [] → s.unit ≠ some '-'
  last : s.unit = none → rest = []
  ne_nil : s.chars ≠ []

end Segment

/-- How a text falls into segments, from the left. -/
inductive Cuts : List Char → List Segment → Prop where
  | nil : Cuts [] []
  | cons {s : Segment} {rest : List Char} {ss : List Segment} :
      s.CutBefore rest → Cuts rest ss → Cuts (s.chars ++ rest) (s :: ss)

theorem dropSign_of_ne {cs : List Char} (h : cs.head? ≠ some '-') : dropSign cs = (false, cs) := by
  cases cs with
  | nil => rfl
  | cons c cs =>
    have hc : c ≠ '-' := by simpa using h
    simp [dropSign, hc]

theorem append_dropSign (cs : List Char) :
    (if (dropSign cs).1 then ['-'] else []) ++ (dropSign cs).2 = cs := by
  by_cases h : cs.head? = some '-'
  · obtain ⟨rest, rfl⟩ := List.head?_eq_some_iff.mp h
    rfl
  · rw [dropSign_of_ne h]
    rfl

namespace Segment

theorem chars_read_append_rest (cs : List Char) : (read cs).chars ++ rest cs = cs := by
  have hunit : ∀ ds : List Char, ds.head?.toList ++ ds.tail = ds := by
    intro ds
    cases ds <;> rfl
  rw [chars, read, rest, List.append_assoc, List.append_assoc, hunit, List.takeWhile_append_dropWhile,
    append_dropSign]

theorem cutBefore_read {cs : List Char} (h : cs ≠ []) : (read cs).CutBefore (rest cs) := by
  have hlast : (read cs).unit = none → rest cs = [] := by
    intro hu
    rw [rest, List.head?_eq_none_iff.mp hu, List.tail_nil]
  refine ⟨List.all_eq_true.mp List.all_takeWhile, fun c hc => ?_, fun hsign hdigits hu => ?_,
    hlast, fun hnil => ?_⟩
  · have hnot := List.head?_dropWhile_not Char.isDigit (dropSign cs).2
    have hhead : ((dropSign cs).2.dropWhile Char.isDigit).head? = some c := hc
    rwa [hhead] at hnot
  · have hmark : cs.head? = some '-' := by
      have happend := List.takeWhile_append_dropWhile (p := Char.isDigit) (l := (dropSign cs).2)
      rw [show (dropSign cs).2.takeWhile Char.isDigit = [] from hdigits, List.nil_append] at happend
      have hcs := append_dropSign cs
      rw [show (dropSign cs).1 = false from hsign, ← happend] at hcs
      rw [← hcs]
      exact hu
    obtain ⟨ds, rfl⟩ := List.head?_eq_some_iff.mp hmark
    exact Bool.noConfusion hsign
  · have hcs := chars_read_append_rest cs
    have hu : (read cs).unit = none := by
      rw [chars, List.append_eq_nil_iff, Option.toList_eq_nil_iff] at hnil
      exact hnil.2
    rw [hnil, hlast hu] at hcs
    exact h hcs.symm

namespace CutBefore

variable {s : Segment} {rest : List Char}

theorem head?_unit (h : s.CutBefore rest) : (s.unit.toList ++ rest).head? = s.unit := by
  cases hu : s.unit with
  | none => simp [h.last hu]
  | some u => rfl

theorem dropSign_eq (h : s.CutBefore rest) :
    dropSign (s.chars ++ rest) = (s.negative, s.digits ++ (s.unit.toList ++ rest)) := by
  cases hs : s.negative with
  | true => simp [chars, hs, dropSign]
  | false =>
    have hchars : s.chars ++ rest = s.digits ++ (s.unit.toList ++ rest) := by simp [chars, hs]
    rw [hchars]
    refine dropSign_of_ne fun hmark => ?_
    cases hd : s.digits with
    | nil =>
      rw [hd, List.nil_append, h.head?_unit] at hmark
      exact h.unit_ne_sign hs hd hmark
    | cons d ds =>
      have hdigit := h.isDigit d (by simp [hd])
      rw [hd, List.cons_append, List.head?_cons, Option.some.injEq] at hmark
      simp [hmark] at hdigit

theorem stop (h : s.CutBefore rest) :
    ∀ c ∈ (s.unit.toList ++ rest).head?, c.isDigit = false := by
  rw [h.head?_unit]
  exact h.unit_isDigit

theorem read_eq (h : s.CutBefore rest) : read (s.chars ++ rest) = s := by
  rw [read, h.dropSign_eq]
  simp only [Text.takeWhile_append_of_stop h.isDigit h.stop,
    Text.dropWhile_append_of_stop h.isDigit h.stop, h.head?_unit]

theorem rest_eq (h : s.CutBefore rest) : Segment.rest (s.chars ++ rest) = rest := by
  rw [Segment.rest, h.dropSign_eq]
  simp only [Text.dropWhile_append_of_stop h.isDigit h.stop]
  cases hu : s.unit with
  | none => simp [h.last hu]
  | some u => rfl

end CutBefore

end Segment

theorem segments_append {s : Segment} {rest : List Char} (h : s.CutBefore rest) :
    segments (s.chars ++ rest) = s :: segments rest := by
  obtain ⟨c, cs, hcs⟩ := List.exists_cons_of_ne_nil (List.append_ne_nil_of_left_ne_nil h.ne_nil rest)
  have hread := h.read_eq
  have hrest := h.rest_eq
  rw [hcs] at hread hrest ⊢
  rw [segments, hread, hrest]

theorem cuts_segments (cs : List Char) : Cuts cs (segments cs) := by
  fun_induction segments cs with
  | case1 => exact .nil
  | case2 c cs ih =>
    have hcut := Cuts.cons (Segment.cutBefore_read (List.cons_ne_nil c cs)) ih
    rwa [Segment.chars_read_append_rest] at hcut

theorem cuts_iff (cs : List Char) (ss : List Segment) : Cuts cs ss ↔ ss = segments cs := by
  constructor
  · intro h
    induction h with
    | nil => rw [segments]
    | cons hs _ ih => rw [segments_append hs, ih]
  · rintro rfl
    exact cuts_segments cs

end ResourceTrace.Magnitude
