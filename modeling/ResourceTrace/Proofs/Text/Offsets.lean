import ResourceTrace.Proofs.Text.Pieces

set_option autoImplicit false

namespace ResourceTrace.Text

/-- The character in front of a position; `before` is the one in front of the text. -/
def preceding (before : Option Char) (cs : List Char) : Nat → Option Char
  | 0 => before
  | i + 1 => cs[i]?

def unescaped (separator : Char) (before : Option Char) (cs : List Char) : List Nat :=
  (List.range cs.length).filter fun i =>
    cs[i]? = some separator ∧ preceding before cs i ≠ some '\\'

/-- Only the first character looks at the one in front of the text. -/
theorem unescaped_cons (separator : Char) (before : Option Char) (c : Char) (cs : List Char) :
    unescaped separator before (c :: cs) =
      (if c = separator ∧ before ≠ some '\\' then [0] else []) ++
        (unescaped separator (some c) cs).map (· + 1) := by
  have hlater (i : Nat) : (c :: cs)[i]? = preceding (some c) cs i := by cases i <;> rfl
  rw [unescaped, List.length_cons, List.range_succ_eq_map, List.filter_cons, List.filter_map]
  simp only [Function.comp_def, preceding, Option.some.injEq, decide_eq_true_eq, hlater]
  split <;> rfl

/-- The positions at which a text is cut into the pieces, where each cut takes a character out. -/
def offsets : List (List Char) → List Nat
  | [] => []
  | [_] => []
  | piece :: next :: rest => piece.length :: (offsets (next :: rest)).map (· + (piece.length + 1))

theorem length_offsets (pieces : List (List Char)) : (offsets pieces).length = pieces.length - 1 := by
  fun_induction offsets pieces with
  | case1 => rfl
  | case2 => rfl
  | case3 piece next rest ih => simpa using ih

theorem offsets_modifyHead_cons (c : Char) (pieces : List (List Char)) :
    offsets (pieces.modifyHead (c :: ·)) = (offsets pieces).map (· + 1) := by
  fun_cases offsets pieces with
  | case1 => rfl
  | case2 => rfl
  | case3 piece next rest =>
    simp [offsets, Function.comp_def, Nat.add_assoc]

theorem offsets_cut (separator : Char) (before : Option Char) (cs : List Char) :
    offsets (cut separator none before cs) = unescaped separator before cs := by
  induction cs generalizing before with
  | nil => rfl
  | cons c cs ih =>
    rw [unescaped_cons]
    by_cases hc : c = separator ∧ before ≠ some '\\'
    · obtain ⟨piece, rest, hcut⟩ := exists_cut_eq_cons separator (some c) cs
      rw [cut_cons_of_separator separator hc.1 hc.2, if_pos hc, ← ih, hcut]
      rfl
    · rw [cut_cons_of_not separator hc, if_neg hc, offsets_modifyHead_cons, ih, List.nil_append]

section

variable (separator : Char)

theorem exists_gather_eq_cons (cuts : Nat) (piece : List Char) (rest : List (List Char)) :
    ∃ first more, gather separator cuts (piece :: rest) = first :: more := by
  cases cuts with
  | zero => exact ⟨_, _, rfl⟩
  | succ cuts => exact ⟨_, _, rfl⟩

theorem join_gather (cuts : Nat) (pieces : List (List Char)) :
    join [separator] (gather separator cuts pieces) = join [separator] pieces := by
  induction pieces generalizing cuts with
  | nil => cases cuts <;> rfl
  | cons piece rest ih =>
    cases cuts with
    | zero => rfl
    | succ cuts =>
      cases rest with
      | nil => cases cuts <;> rfl
      | cons next rest =>
        obtain ⟨first, more, hgather⟩ := exists_gather_eq_cons separator cuts next rest
        have hrest := ih cuts
        rw [hgather] at hrest
        rw [gather, hgather, join_cons_cons, hrest, join_cons_cons]

theorem offsets_gather (cuts : Nat) (pieces : List (List Char)) :
    offsets (gather separator cuts pieces) = (offsets pieces).take cuts := by
  induction pieces generalizing cuts with
  | nil => cases cuts <;> rfl
  | cons piece rest ih =>
    cases cuts with
    | zero => rfl
    | succ cuts =>
      cases rest with
      | nil => cases cuts <;> rfl
      | cons next rest =>
        obtain ⟨first, more, hgather⟩ := exists_gather_eq_cons separator cuts next rest
        have hrest := ih cuts
        rw [hgather] at hrest
        rw [gather, hgather, offsets, hrest, offsets, List.take_succ_cons, List.map_take]

theorem length_gather (cuts : Nat) (pieces : List (List Char)) :
    (gather separator cuts pieces).length = min (cuts + 1) pieces.length := by
  induction pieces generalizing cuts with
  | nil => cases cuts <;> rfl
  | cons piece rest ih =>
    cases cuts with
    | zero => simp [gather]
    | succ cuts => simp [gather, ih]

theorem gather_eq (cuts : Nat) (pieces : List (List Char)) :
    gather separator cuts pieces =
      if pieces.length ≤ cuts + 1 then pieces
      else pieces.take cuts ++ [join [separator] (pieces.drop cuts)] := by
  induction pieces generalizing cuts with
  | nil => cases cuts <;> rfl
  | cons piece rest ih =>
    cases cuts with
    | zero =>
      cases rest with
      | nil => rfl
      | cons next rest => rfl
    | succ cuts =>
      rw [gather, ih]
      simp only [List.length_cons, Nat.add_le_add_iff_right, List.take_succ_cons,
        List.drop_succ_cons, List.cons_append]
      split <;> rfl

theorem pieces_some (limit : Nat) (cs : List Char) :
    pieces separator (some limit) cs = gather separator (limit - 1) (pieces separator none cs) :=
  cut_some separator (limit - 1) none cs

/-- For any text, any separator and any limit: the pieces joined again are the text, and they are
cut at the first of the separators with no backslash in front, as many as the limit allows; a limit
of zero counts as one. Where there are more pieces than the limit, all that comes after the last cut
stays together. -/
theorem pieces_cut_unescaped (cs : List Char) :
    join [separator] (pieces separator none cs) = cs ∧
      (pieces separator none cs).length = 1 + (unescaped separator none cs).length ∧
      offsets (pieces separator none cs) = unescaped separator none cs ∧
      ∀ limit : Nat,
        let positions := unescaped separator none cs
        let all := pieces separator none cs
        let limited := pieces separator (some limit) cs
        join [separator] limited = cs ∧
          limited.length = min (max limit 1) (1 + positions.length) ∧
          offsets limited = positions.take (limit - 1) ∧
          limited =
            if all.length ≤ max limit 1 then all
            else all.take (limit - 1) ++ [join [separator] (all.drop (limit - 1))] := by
  have hjoin : join [separator] (pieces separator none cs) = cs := join_cut separator none cs
  have hoffsets : offsets (pieces separator none cs) = unescaped separator none cs :=
    offsets_cut separator none cs
  -- One piece more than there are cuts.
  have hlength : (pieces separator none cs).length = 1 + (unescaped separator none cs).length := by
    have hpos : 0 < (pieces separator none cs).length :=
      List.length_pos_iff.mpr (cut_ne_nil separator none none cs)
    have hcuts := length_offsets (pieces separator none cs)
    rw [hoffsets] at hcuts
    omega
  refine ⟨hjoin, hlength, hoffsets, fun limit => ?_⟩
  have hlimit : limit - 1 + 1 = max limit 1 := by omega
  simp only [pieces_some separator limit cs]
  refine ⟨?_, ?_, ?_, ?_⟩
  · rw [join_gather, hjoin]
  · rw [length_gather, hlimit, hlength]
  · rw [offsets_gather, hoffsets]
  · rw [gather_eq, hlimit]

end

/-- Where the separator is the backslash itself, only the first of a run of them separates. -/
example : pieces '\\' none "a\\\\b\\c".toList = ["a".toList, "\\b".toList, "c".toList] := by decide

end ResourceTrace.Text
