import ResourceTrace.Event.Format
import ResourceTrace.Proofs.Text.Digits

set_option autoImplicit false

namespace ResourceTrace.Format

open Numeral (IsRun)

inductive Piece where
  | plain (cs : List Char)
  | next
  | lineBreak
  | percent
  | numbered (digits : List Char)
  | stray
  deriving DecidableEq, Repr

namespace Piece

def chars : Piece → List Char
  | plain cs => cs
  | next => ['%', 's']
  | lineBreak => ['%', 'n']
  | percent => ['%', '%']
  | numbered digits => '%' :: (digits ++ ['$', 's'])
  | stray => ['%']

/-- Numbers begin with one and fit in 64 bits. -/
def IsConversion : Piece → Prop
  | plain _ | stray => False
  | next | lineBreak | percent => True
  | numbered digits => IsRun digits ∧ 1 ≤ Numeral.value digits ∧
      Numeral.value digits ≤ Numeral.maxUnsigned64

end Piece

/-- How a format is read from the left. Plain text goes on to a percent sign or to the end. -/
inductive Reads : List Char → List Piece → Prop where
  | nil : Reads [] []
  | plain {cs rest : List Char} {ps : List Piece} : cs ≠ [] → '%' ∉ cs →
      (∀ c ∈ rest.head?, c = '%') → Reads rest ps → Reads (cs ++ rest) (.plain cs :: ps)
  | conversion {p : Piece} {rest : List Char} {ps : List Piece} : p.IsConversion →
      Reads rest ps → Reads (p.chars ++ rest) (p :: ps)
  | stray {rest : List Char} {ps : List Piece} :
      (∀ p : Piece, p.IsConversion → ¬p.chars <+: '%' :: rest) →
      Reads rest ps → Reads ('%' :: rest) (.stray :: ps)

namespace Piece

variable {p q : Piece} {cs rest rest' : List Char}

theorem IsConversion.head? (h : p.IsConversion) : (p.chars ++ rest).head? = some '%' := by
  cases p with
  | plain cs => exact h.elim
  | stray => exact h.elim
  | next | lineBreak | percent | numbered digits => rfl

theorem IsConversion.chars_ne_nil (h : p.IsConversion) : p.chars ≠ [] := by
  intro hnil
  have hhead : (p.chars ++ []).head? = some '%' := h.head?
  rw [hnil] at hhead
  cases hhead

theorem head?_plain (hne : cs ≠ []) (hcs : '%' ∉ cs) : (cs ++ rest).head? ≠ some '%' := by
  obtain ⟨c, cs, rfl⟩ := List.exists_cons_of_ne_nil hne
  intro hc
  exact hcs (by simp_all)

theorem isDigit_of_run_append {digits : List Char} {c : Char} (h : IsRun digits)
    (heq : digits ++ rest = c :: cs) : c.isDigit = true := by
  obtain ⟨d, ds, rfl⟩ := List.exists_cons_of_ne_nil h.ne_nil
  exact (List.cons.inj heq).1 ▸ h.isDigit d List.mem_cons_self

theorem IsConversion.unique (hp : p.IsConversion) (hq : q.IsConversion)
    (h : p.chars ++ rest = q.chars ++ rest') : p = q ∧ rest = rest' := by
  cases p with
  | plain cs => exact hp.elim
  | stray => exact hp.elim
  | numbered digits =>
    cases q with
    | plain cs => exact hq.elim
    | stray => exact hq.elim
    | numbered digits' =>
      have htail : digits ++ ('$' :: 's' :: rest) = digits' ++ ('$' :: 's' :: rest') := by
        simpa [chars] using h
      obtain ⟨rfl, hrest⟩ := Text.append_inj_of_stop htail hp.1.isDigit (by simp) hq.1.isDigit
        (by simp)
      exact ⟨rfl, by simpa using hrest⟩
    | next | lineBreak | percent =>
      have htail := isDigit_of_run_append hp.1 (by simpa [chars] using h)
      simp at htail
  | next | lineBreak | percent =>
    cases q with
    | plain cs => exact hq.elim
    | stray => exact hq.elim
    | numbered digits =>
      have htail := isDigit_of_run_append hq.1 (by simpa [chars] using h.symm)
      simp at htail
    | next | lineBreak | percent => simp_all [chars]

end Piece

namespace Reads

variable {cs rest : List Char} {p : Piece} {ps : List Piece}

theorem of_nil (h : Reads [] ps) : ps = [] := by
  generalize htext : [] = text at h
  cases h with
  | nil => rfl
  | plain hne => exact absurd (List.append_eq_nil_iff.mp htext.symm).1 hne
  | conversion hp => exact absurd (List.append_eq_nil_iff.mp htext.symm).1 hp.chars_ne_nil
  | stray => cases htext

theorem of_plain (hne : cs ≠ []) (hcs : '%' ∉ cs) (hstop : ∀ c ∈ rest.head?, c = '%')
    (h : Reads (cs ++ rest) ps) : ∃ qs, ps = .plain cs :: qs ∧ Reads rest qs := by
  have hhead : (cs ++ rest).head? ≠ some '%' := Piece.head?_plain hne hcs
  generalize htext : cs ++ rest = text at h hhead
  cases h with
  | nil => exact absurd (List.append_eq_nil_iff.mp htext).1 hne
  | @plain cs' rest' qs hne' hcs' hstop' hrest =>
    have hno : ∀ {ds : List Char}, '%' ∉ ds → ∀ c ∈ ds, (c != '%') = true :=
      fun hds c hc => bne_iff_ne.mpr fun heq => hds (heq ▸ hc)
    obtain ⟨rfl, rfl⟩ := Text.append_inj_of_stop htext (hno hcs)
      (fun c hc => by simp [hstop c hc]) (hno hcs') (fun c hc => by simp [hstop' c hc])
    exact ⟨qs, rfl, hrest⟩
  | conversion hp => exact absurd hp.head? hhead
  | stray => exact absurd rfl hhead

theorem of_conversion (hp : p.IsConversion) (h : Reads (p.chars ++ rest) ps) :
    ∃ qs, ps = p :: qs ∧ Reads rest qs := by
  have hhead : (p.chars ++ rest).head? = some '%' := hp.head?
  generalize htext : p.chars ++ rest = text at h hhead
  cases h with
  | nil => cases hhead
  | plain hne hcs => exact absurd hhead (Piece.head?_plain hne hcs)
  | @conversion q rest' qs hq hrest =>
    obtain ⟨rfl, rfl⟩ := hp.unique hq htext
    exact ⟨qs, rfl, hrest⟩
  | stray hno => exact absurd ⟨rest, htext⟩ (hno p hp)

theorem of_stray (hno : ∀ p : Piece, p.IsConversion → ¬p.chars <+: '%' :: rest)
    (h : Reads ('%' :: rest) ps) : ∃ qs, ps = .stray :: qs ∧ Reads rest qs := by
  have hhead : ('%' :: rest).head? = some '%' := rfl
  generalize htext : '%' :: rest = text at h hhead
  cases h with
  | nil => cases hhead
  | plain hne hcs => exact absurd hhead (Piece.head?_plain hne hcs)
  | conversion hq => exact absurd ⟨_, htext.symm⟩ (hno _ hq)
  | @stray rest' qs _ hrest =>
    obtain rfl := (List.cons.inj htext).2
    exact ⟨qs, rfl, hrest⟩

theorem unique {qs : List Piece} (h : Reads cs ps) (h' : Reads cs qs) : ps = qs := by
  induction h generalizing qs with
  | nil => exact h'.of_nil.symm
  | plain hne hcs hstop _ ih =>
    obtain ⟨qs, rfl, hrest⟩ := of_plain hne hcs hstop h'
    rw [ih hrest]
  | conversion hp _ ih =>
    obtain ⟨qs, rfl, hrest⟩ := of_conversion hp h'
    rw [ih hrest]
  | stray hno _ ih =>
    obtain ⟨qs, rfl, hrest⟩ := of_stray hno h'
    rw [ih hrest]

end Reads

theorem exists_plain {c : Char} {cs : List Char} (hc : c ≠ '%') :
    ∃ front rest, c :: cs = front ++ rest ∧ front ≠ [] ∧ '%' ∉ front ∧
      ∀ d ∈ rest.head?, d = '%' := by
  refine ⟨(c :: cs).takeWhile (· != '%'), (c :: cs).dropWhile (· != '%'),
    List.takeWhile_append_dropWhile.symm, by simp [hc], ?_, ?_⟩
  · intro hmem
    have hall := List.all_eq_true.mp List.all_takeWhile _ hmem
    simp at hall
  · intro d hd
    have hnot := List.head?_dropWhile_not (· != '%') (c :: cs)
    rw [hd] at hnot
    simpa using hnot

theorem exists_reads (cs : List Char) : ∃ ps, Reads cs ps := by
  induction hn : cs.length using Nat.strongRecOn generalizing cs with
  | ind n ih =>
    cases cs with
    | nil => exact ⟨[], .nil⟩
    | cons c cs =>
      by_cases hc : c = '%'
      · subst hc
        by_cases hp : ∃ p : Piece, p.IsConversion ∧ p.chars <+: '%' :: cs
        · obtain ⟨p, hp, rest, hrest⟩ := hp
          have hlt : rest.length < n := by
            have hpos : 0 < p.chars.length := List.length_pos_iff.mpr hp.chars_ne_nil
            rw [← hn, ← hrest, List.length_append]
            omega
          obtain ⟨ps, hps⟩ := ih _ hlt rest rfl
          exact ⟨p :: ps, hrest ▸ .conversion hp hps⟩
        · obtain ⟨ps, hps⟩ := ih cs.length (by simp [← hn]) cs rfl
          exact ⟨.stray :: ps, .stray (fun p hconv hfront => hp ⟨p, hconv, hfront⟩) hps⟩
      · obtain ⟨front, rest, htext, hne, hno, hstop⟩ := exists_plain hc
        have hlt : rest.length < n := by
          have hpos := List.length_pos_iff.mpr hne
          rw [← hn, htext, List.length_append]
          omega
        obtain ⟨ps, hps⟩ := ih _ hlt rest rfl
        exact ⟨.plain front :: ps, htext ▸ .plain hne hno hstop hps⟩

end ResourceTrace.Format
