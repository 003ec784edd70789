import Mathlib.Data.List.Basic
import ResourceTrace.Proofs.Format.Reading

set_option autoImplicit false

namespace ResourceTrace.Format

/-- The value a piece asks for when as many were taken by `%s` before it. -/
def Piece.value? (values : List Value) (taken : Nat) : Piece → Option Value
  | .next => values[taken]?
  | .numbered digits => values[Numeral.value digits - 1]?
  | .plain _ | .lineBreak | .percent | .stray => none

def Piece.shown (values : List Value) (taken : Nat) : Piece → List Char
  | .plain cs => cs
  | .lineBreak => ['\n']
  | .percent | .stray => ['%']
  | p => ((p.value? values taken).elim "null" Value.text).toList

def rendering (values : List Value) (taken : Nat) (ps : List Piece) : List Char :=
  (ps.mapIdx fun i p => p.shown values (taken + (ps.take i).count .next)).flatten

variable {values : List Value} {taken : Nat}

theorem rendering_cons (p : Piece) (ps : List Piece) :
    rendering values taken (p :: ps) =
      p.shown values taken ++ rendering values (taken + [p].count .next) ps := by
  have htaken : ∀ i, taken + ((p :: ps).take (i + 1)).count .next =
      taken + [p].count .next + (ps.take i).count .next := by
    intro i
    rw [List.take_succ_cons, ← List.singleton_append, List.count_append, Nat.add_assoc]
  rw [rendering, List.mapIdx_cons, List.flatten_cons]
  simp only [htaken]
  rfl

theorem rendering_append (ps qs : List Piece) :
    rendering values taken (ps ++ qs) =
      rendering values taken ps ++ rendering values (taken + ps.count .next) qs := by
  induction ps generalizing taken with
  | nil => rfl
  | cons p ps ih =>
    have hcount : (p :: ps).count .next = [p].count .next + ps.count .next := by
      rw [← List.singleton_append, List.count_append]
    rw [List.cons_append, rendering_cons, ih, rendering_cons, hcount, List.append_assoc,
      Nat.add_assoc]

theorem valueText_eq (values : List Value) (i : Nat) :
    valueText values i = (values[i]?.elim "null" Value.text).toList := by
  rw [valueText]
  cases values[i]? <;> rfl

theorem shown_of_value? {p : Piece} {v : Value} (h : p.value? values taken = some v) :
    p.shown values taken = v.text.toList := by
  cases p with
  | next | numbered => simp only [Piece.shown, h, Option.elim_some]
  | plain | lineBreak | percent | stray => cases h

theorem tokens_plain {c : Char} (hc : c ≠ '%') (cs : List Char) :
    tokens (c :: cs) = .plain c :: tokens cs := by
  rw [tokens]
  all_goals simp_all

theorem numbered?_eq_some_iff {cs rest : List Char} {n : Nat} :
    numbered? cs = some (n, rest) ↔ ∃ digits, (Piece.numbered digits).IsConversion ∧
      Numeral.value digits = n ∧ cs = digits ++ '$' :: 's' :: rest := by
  constructor
  · intro h
    rw [numbered?] at h
    split at h
    · cases h
    · next number hread =>
      obtain ⟨hrun, rfl, hlimit⟩ := Numeral.readUnsigned?_eq_some_iff.mp hread
      split at h
      · cases h
      · next hpos =>
        split at h
        · next rest' hdrop =>
          obtain ⟨rfl, rfl⟩ := Prod.mk.inj (Option.some.inj h)
          exact ⟨_, ⟨hrun, Nat.one_le_iff_ne_zero.mpr hpos, hlimit⟩, rfl,
            hdrop ▸ List.takeWhile_append_dropWhile.symm⟩
        · cases h
  · rintro ⟨digits, ⟨hrun, hpos, hlimit⟩, rfl, rfl⟩
    have hstop : ∀ c ∈ ('$' :: 's' :: rest).head?, c.isDigit = false := by simp
    rw [numbered?, Text.takeWhile_append_of_stop hrun.isDigit hstop,
      Text.dropWhile_append_of_stop hrun.isDigit hstop,
      Numeral.readUnsigned?_eq_some_iff.mpr ⟨hrun, rfl, hlimit⟩]
    exact if_neg (Nat.one_le_iff_ne_zero.mp hpos)

theorem tokens_numbered {digits : List Char} (h : (Piece.numbered digits).IsConversion)
    (rest : List Char) : tokens ((Piece.numbered digits).chars ++ rest) =
      .numbered (Numeral.value digits) :: tokens rest := by
  have hread : numbered? (digits ++ '$' :: 's' :: rest) = some (Numeral.value digits, rest) :=
    numbered?_eq_some_iff.mpr ⟨digits, h, rfl, rfl⟩
  have hchars : (Piece.numbered digits).chars ++ rest = '%' :: (digits ++ '$' :: 's' :: rest) := by
    simp [Piece.chars]
  have hdigit : ∀ {c : Char} {cs : List Char}, digits ++ '$' :: 's' :: rest = c :: cs →
      c.isDigit = true := Piece.isDigit_of_run_append h.1
  rw [hchars, tokens]
  · split
    · next n rest' hsome =>
      rw [hread, Option.some.injEq, Prod.mk.injEq] at hsome
      rw [hsome.1, hsome.2]
    · next hnone =>
      rw [hread] at hnone
      cases hnone
  all_goals
    intro tail heq
    simpa using hdigit heq

theorem tokens_stray {rest : List Char}
    (hno : ∀ p : Piece, p.IsConversion → ¬p.chars <+: '%' :: rest) :
    tokens ('%' :: rest) = .stray :: tokens rest := by
  have hnone : numbered? rest = none := by
    by_contra h
    obtain ⟨⟨n, rest'⟩, hread⟩ := Option.ne_none_iff_exists'.mp h
    obtain ⟨digits, hconv, -, rfl⟩ := numbered?_eq_some_iff.mp hread
    exact hno _ hconv ⟨rest', by simp [Piece.chars]⟩
  rw [tokens]
  · split
    · next n rest' hsome =>
      rw [hnone] at hsome
      cases hsome
    · rfl
  · rintro tail rfl
    exact hno .next trivial ⟨tail, rfl⟩
  · rintro tail rfl
    exact hno .lineBreak trivial ⟨tail, rfl⟩
  · rintro tail rfl
    exact hno .percent trivial ⟨tail, rfl⟩

theorem renderTokens_plain {cs : List Char} (hcs : '%' ∉ cs) (rest : List Char) :
    renderTokens values taken (tokens (cs ++ rest)) =
      cs ++ renderTokens values taken (tokens rest) := by
  induction cs with
  | nil => rfl
  | cons c cs ih =>
    rw [List.mem_cons, not_or] at hcs
    rw [List.cons_append, tokens_plain (Ne.symm hcs.1), renderTokens, ih hcs.2, List.cons_append]

theorem renderTokens_conversion {p : Piece} (hp : p.IsConversion) (rest : List Char) :
    renderTokens values taken (tokens (p.chars ++ rest)) =
      p.shown values taken ++ renderTokens values (taken + [p].count .next) (tokens rest) := by
  cases p with
  | plain cs => exact hp.elim
  | stray => exact hp.elim
  | next => simp [Piece.chars, Piece.shown, Piece.value?, tokens, renderTokens, valueText_eq]
  | lineBreak | percent => simp [Piece.chars, Piece.shown, tokens, renderTokens]
  | numbered digits =>
    rw [tokens_numbered hp, renderTokens, valueText_eq]
    rfl

theorem Reads.renderTokens {cs : List Char} {ps : List Piece} (h : Reads cs ps) :
    renderTokens values taken (tokens cs) = rendering values taken ps := by
  induction h generalizing taken with
  | nil => rw [tokens]; rfl
  | plain _ hcs _ _ ih => rw [renderTokens_plain hcs, ih, rendering_cons]; rfl
  | conversion hp _ ih => rw [renderTokens_conversion hp, ih, rendering_cons]
  | stray hno _ ih => rw [tokens_stray hno, Format.renderTokens, ih, rendering_cons]; rfl

def doubled (text : String) : String :=
  String.ofList (text.toList.flatMap fun c => if c = '%' then ['%', '%'] else [c])

theorem renderTokens_doubled (cs : List Char) :
    renderTokens values taken
      (tokens (cs.flatMap fun c => if c = '%' then ['%', '%'] else [c])) = cs := by
  induction cs with
  | nil => rw [List.flatMap_nil, tokens]; rfl
  | cons c cs ih =>
    rw [List.flatMap_cons]
    by_cases hc : c = '%'
    · rw [if_pos hc, List.cons_append, List.cons_append, List.nil_append, tokens, renderTokens,
        ih, hc]
    · rw [if_neg hc, List.singleton_append, tokens_plain hc, renderTokens, ih]

theorem render_doubled (values : List Value) (text : String) :
    render (doubled text) values = text := by
  rw [render, doubled, String.toList_ofList, renderTokens_doubled, String.ofList_toList]

def listed (is : List Nat) : List Char :=
  is.flatMap fun i => ' ' :: (Piece.numbered (Nat.toDigits 10 (i + 1))).chars

theorem listed_cons (i : Nat) (is : List Nat) :
    listed (i :: is) = ' ' :: (Piece.numbered (Nat.toDigits 10 (i + 1))).chars ++ listed is :=
  List.flatMap_cons

theorem toList_foldl_listed (is : List Nat) (front : String) :
    (is.foldl (fun format i => format ++ s!" %{i + 1}$s") front).toList =
      front.toList ++ listed is := by
  induction is generalizing front with
  | nil => simp [listed]
  | cons i is ih =>
    have hone : s!" %{i + 1}$s".toList =
        ' ' :: (Piece.numbered (Nat.toDigits 10 (i + 1))).chars := by
      change (" %" ++ (i + 1).repr ++ "$s").toList = _
      rw [String.toList_append, String.toList_append, Nat.toList_repr]
      rfl
    rw [List.foldl_cons, ih, String.toList_append, hone, List.append_assoc, listed_cons]

theorem renderTokens_listed {is : List Nat} (his : ∀ i ∈ is, i < Numeral.maxUnsigned64) :
    renderTokens values taken (tokens (listed is)) =
      is.flatMap fun i => ' ' :: valueText values i := by
  induction is with
  | nil => rw [listed, List.flatMap_nil, tokens]; rfl
  | cons i is ih =>
    obtain ⟨hi, his⟩ := List.forall_mem_cons.mp his
    have hconv : (Piece.numbered (Nat.toDigits 10 (i + 1))).IsConversion := by
      refine ⟨Numeral.isRun_toDigits _, ?_, ?_⟩ <;> rw [Numeral.value_toDigits] <;> omega
    rw [listed_cons, List.cons_append, tokens_plain (by decide), renderTokens,
      tokens_numbered hconv, renderTokens, Numeral.value_toDigits, Nat.add_sub_cancel, ih his,
      List.flatMap_cons, List.cons_append]

theorem flatMap_valueText (values : List Value) :
    ((List.range values.length).flatMap fun i => ' ' :: valueText values i) =
      values.flatMap fun v => ' ' :: v.text.toList := by
  have hnth : values = (List.range values.length).map fun i => (values[i]?).getD .null := by
    refine List.ext_getElem (by simp) fun i hi _ => ?_
    simp [List.getElem?_eq_getElem hi]
  conv_rhs => rw [hnth, List.flatMap_map]
  rfl

theorem percent_notMem_heading (family : Nat) :
    '%' ∉ s!"Values for generic logger {family}:".toList := by
  intro hmem
  change '%' ∈ ("Values for generic logger " ++ family.repr ++ ":").toList at hmem
  rw [String.toList_append, String.toList_append, Nat.toList_repr, List.mem_append,
    List.mem_append] at hmem
  obtain (hmem | hmem) | hmem := hmem
  · simp at hmem
  · exact absurd ((Numeral.isRun_toDigits family).isDigit _ hmem) (by decide)
  · simp at hmem

theorem render_listing (family : Nat) (h : values.length ≤ Numeral.maxUnsigned64) :
    render (listing family values.length) values = s!"Values for generic logger {family}:" ++
      String.join (values.map fun v => " " ++ v.text) := by
  have hrange : ∀ i ∈ List.range values.length, i < Numeral.maxUnsigned64 :=
    fun _ hi => Nat.lt_of_lt_of_le (List.mem_range.mp hi) h
  have hjoin : (String.join (values.map fun v => " " ++ v.text)).toList =
      values.flatMap fun v => ' ' :: v.text.toList := by
    rw [String.toList_join, List.flatMap_map]
    simp
  rw [render, listing, toList_foldl_listed, renderTokens_plain (percent_notMem_heading family),
    renderTokens_listed hrange, flatMap_valueText, ← hjoin, String.ofList_append,
    String.ofList_toList, String.ofList_toList]

/-- Rendering puts the texts of the pieces side by side, the text of a value standing as it is;
a text with its percent signs doubled renders to itself, and a listing to all values in turn. -/
theorem render_by_pieces (format : String) (values : List Value) :
    (∃ ps, (∀ qs, Reads format.toList qs ↔ qs = ps) ∧
      render format values = String.ofList (rendering values 0 ps) ∧
      ∀ front p back v, ps = front ++ p :: back →
        p.value? values (front.count .next) = some v →
        render format values = String.ofList (rendering values 0 front) ++ v.text ++
          String.ofList (rendering values ((front ++ [p]).count .next) back)) ∧
    (∀ text, render (doubled text) values = text) ∧
    ∀ family, values.length ≤ Numeral.maxUnsigned64 →
      render (listing family values.length) values = s!"Values for generic logger {family}:" ++
        String.join (values.map fun v => " " ++ v.text) := by
  refine ⟨?_, render_doubled values, fun _ h => render_listing _ h⟩
  obtain ⟨ps, hps⟩ := exists_reads format.toList
  have hrender : render format values = String.ofList (rendering values 0 ps) := by
    rw [render, hps.renderTokens]
  refine ⟨ps, fun qs => ⟨fun hqs => hqs.unique hps, fun hqs => hqs ▸ hps⟩, hrender, ?_⟩
  rintro front p back v rfl hv
  rw [hrender, rendering_append, rendering_cons, Nat.zero_add, shown_of_value? hv,
    String.ofList_append, String.ofList_append, String.ofList_toList, String.append_assoc,
    List.count_append]

theorem render_by_pieces_of_percent :
    render "%s%%" [.str "%s"] = "%s%" ∧ 2 ≤ Numeral.maxUnsigned64 ∧
      render (listing 5 2) [.str "%s", .int 7] = "Values for generic logger 5: %s 7" := by
  refine ⟨?_, by decide, ((render_by_pieces "" [.str "%s", .int 7]).2.2 5 (by decide)).trans rfl⟩
  obtain ⟨ps, hps, hrender, -⟩ := (render_by_pieces "%s%%" [.str "%s"]).1
  have hreads : Reads "%s%%".toList [.next, .percent] :=
    .conversion (p := .next) trivial (.conversion (p := .percent) trivial .nil)
  obtain rfl := (hps _).mp hreads
  exact hrender.trans rfl

end ResourceTrace.Format
