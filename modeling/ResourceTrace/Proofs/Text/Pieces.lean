import ResourceTrace.Text.Cut

/-!
Laws of cutting and unescaping. A cut is undone by joining, it goes on behind a separator as if
the text began there, and a limit only joins the last pieces again. What is escaped is never
cut, and neither escaping nor unescaping changes the last character of a text, on which the cut
behind it depends.
-/

set_option autoImplicit false

namespace ResourceTrace.Text

def lastOr (before : Option Char) (cs : List Char) : Option Char := cs.getLast?.or before

@[simp] theorem lastOr_none (cs : List Char) : lastOr none cs = cs.getLast? := by simp [lastOr]

@[simp] theorem lastOr_cons (before : Option Char) (c : Char) (cs : List Char) :
    lastOr before (c :: cs) = lastOr (some c) cs := by
  cases h : cs.getLast? <;> simp [lastOr, List.getLast?_cons, h]

theorem getLast?_ne_of_lastOr_ne {before : Option Char} {cs : List Char}
    (h : lastOr before cs ≠ some '\\') : cs.getLast? ≠ some '\\' := by
  intro hc
  simp [lastOr, hc] at h

section

variable (separator : Char)

@[simp] theorem cut_nil (before : Option Char) : cut separator none before [] = [[]] := rfl

theorem exists_cut_eq_cons (before : Option Char) (cs : List Char) :
    ∃ piece rest, cut separator none before cs = piece :: rest :=
  List.exists_cons_of_ne_nil (cut_ne_nil separator none before cs)

theorem cut_cons_of_separator {before : Option Char} {c : Char} (h : c = separator)
    (hb : before ≠ some '\\') (cs : List Char) :
    cut separator none before (c :: cs) = [] :: cut separator none (some c) cs := by
  simp [cut, h, hb]

theorem cut_cons_of_not {before : Option Char} {c : Char}
    (h : ¬(c = separator ∧ before ≠ some '\\')) (cs : List Char) :
    cut separator none before (c :: cs) =
      (cut separator none (some c) cs).modifyHead (c :: ·) := by
  obtain ⟨piece, rest, hcut⟩ := exists_cut_eq_cons separator (some c) cs
  rw [cut.eq_3 separator none before c cs (by simp), if_neg h, hcut, List.modifyHead_cons]

/-- The character in front of a text matters only if it is a backslash. -/
theorem cut_before {before : Option Char} (h : before ≠ some '\\') (cs : List Char) :
    cut separator none before cs = cut separator none none cs := by
  -- Only the first character looks back at it.
  cases cs with
  | nil => rfl
  | cons c cs =>
    by_cases hc : c = separator
    · rw [cut_cons_of_separator separator hc h, cut_cons_of_separator separator hc (by simp)]
    · rw [cut_cons_of_not separator (by simp [hc]), cut_cons_of_not separator (by simp [hc])]

theorem cut_of_not_mem {separator : Char} {cs : List Char} (h : separator ∉ cs)
    (before : Option Char) : cut separator none before cs = [cs] := by
  induction cs generalizing before with
  | nil => rfl
  | cons c cs ih =>
    rw [List.mem_cons, not_or] at h
    rw [cut_cons_of_not separator (by simp [Ne.symm h.1]), ih h.2]
    rfl

theorem cut_append_separator {before : Option Char} {a : List Char}
    (h : lastOr before a ≠ some '\\') (b : List Char) :
    cut separator none before (a ++ separator :: b) =
      cut separator none before a ++ cut separator none (some separator) b := by
  induction a generalizing before with
  | nil => exact cut_cons_of_separator separator rfl h b
  | cons c a ih =>
    rw [lastOr_cons] at h
    rw [List.cons_append]
    by_cases hc : c = separator ∧ before ≠ some '\\'
    · rw [cut_cons_of_separator separator hc.1 hc.2, cut_cons_of_separator separator hc.1 hc.2,
        ih h, List.cons_append]
    · obtain ⟨piece, rest, hcut⟩ := exists_cut_eq_cons separator (some c) a
      rw [cut_cons_of_not separator hc, cut_cons_of_not separator hc, ih h, hcut]
      rfl

theorem cut_append {before : Option Char} {a b : List Char}
    (ha : cut separator none before a = [a])
    (hb : cut separator none (lastOr before a) b = [b]) :
    cut separator none before (a ++ b) = [a ++ b] := by
  induction a generalizing before with
  | nil => exact hb
  | cons c a ih =>
    rw [lastOr_cons] at hb
    by_cases hc : c = separator ∧ before ≠ some '\\'
    · simp [cut_cons_of_separator separator hc.1 hc.2] at ha
    · obtain ⟨piece, rest, hcut⟩ := exists_cut_eq_cons separator (some c) a
      rw [cut_cons_of_not separator hc, hcut] at ha
      have ha' : cut separator none (some c) a = [a] := by simpa [hcut] using ha
      rw [List.cons_append, cut_cons_of_not separator hc, ih ha' hb]
      rfl

theorem eq_append_of_cut {before : Option Char} {cs piece next : List Char}
    {rest : List (List Char)} (h : cut separator none before cs = piece :: next :: rest) :
    lastOr before piece ≠ some '\\' ∧
      ∃ b, cs = piece ++ separator :: b ∧ cut separator none (some separator) b = next :: rest := by
  induction cs generalizing before piece with
  | nil => simp at h
  | cons c cs ih =>
    by_cases hc : c = separator ∧ before ≠ some '\\'
    · rw [cut_cons_of_separator separator hc.1 hc.2, hc.1, List.cons.injEq] at h
      rw [← h.1, hc.1]
      exact ⟨hc.2, cs, rfl, h.2⟩
    · obtain ⟨first, more, hcut⟩ := exists_cut_eq_cons separator (some c) cs
      rw [cut_cons_of_not separator hc, hcut, List.modifyHead_cons, List.cons.injEq] at h
      rw [h.2] at hcut
      obtain ⟨hlast, b, hcs, hb⟩ := ih hcut
      rw [← h.1, lastOr_cons]
      exact ⟨hlast, b, by rw [hcs, List.cons_append], hb⟩

theorem eq_of_cut_eq_singleton {before : Option Char} {cs piece : List Char}
    (h : cut separator none before cs = [piece]) : cs = piece := by
  induction cs generalizing before piece with
  | nil => simpa using h
  | cons c cs ih =>
    by_cases hc : c = separator ∧ before ≠ some '\\'
    · have hne := cut_ne_nil separator none (some c) cs
      simp [cut_cons_of_separator separator hc.1 hc.2, hne] at h
    · obtain ⟨first, more, hcut⟩ := exists_cut_eq_cons separator (some c) cs
      rw [cut_cons_of_not separator hc, hcut, List.modifyHead_cons, List.cons.injEq] at h
      rw [h.2] at hcut
      rw [ih hcut, h.1]

@[simp] theorem join_cons_cons (between piece next : List Char) (rest : List (List Char)) :
    join between (piece :: next :: rest) = piece ++ between ++ join between (next :: rest) := rfl

theorem join_cut (before : Option Char) (cs : List Char) :
    join [separator] (cut separator none before cs) = cs := by
  generalize hp : cut separator none before cs = pieces
  induction pieces generalizing before cs with
  | nil => exact absurd hp (cut_ne_nil separator none before cs)
  | cons piece rest ih =>
    cases rest with
    | nil => rw [join, eq_of_cut_eq_singleton separator hp]
    | cons next rest =>
      obtain ⟨_, b, hcs, hb⟩ := eq_append_of_cut separator hp
      rw [join_cons_cons, ih (some separator) b hb, hcs, List.append_assoc, List.singleton_append]

/-- Only the last piece may end in a backslash. -/
theorem getLast?_ne_of_mem_dropLast_cut {before : Option Char} {cs piece : List Char}
    (h : piece ∈ (cut separator none before cs).dropLast) : piece.getLast? ≠ some '\\' := by
  generalize hp : cut separator none before cs = pieces at h
  induction pieces generalizing before cs with
  | nil => simp at h
  | cons first rest ih =>
    cases rest with
    | nil => simp at h
    | cons next rest =>
      obtain ⟨hlast, b, _, hb⟩ := eq_append_of_cut separator hp
      rw [List.dropLast_cons_cons, List.mem_cons] at h
      rcases h with rfl | h
      · exact getLast?_ne_of_lastOr_ne hlast
      · exact ih hb h

theorem cut_of_mem_cut {before : Option Char} {cs piece : List Char} (hs : separator ≠ '\\')
    (hb : before ≠ some '\\') (h : piece ∈ cut separator none before cs) :
    cut separator none none piece = [piece] := by
  generalize hp : cut separator none before cs = pieces at h
  induction pieces generalizing before cs with
  | nil => simp at h
  | cons first rest ih =>
    cases rest with
    | nil =>
      obtain rfl := List.mem_singleton.mp h
      rw [eq_of_cut_eq_singleton separator hp, cut_before separator hb] at hp
      exact hp
    | cons next rest =>
      obtain ⟨hlast, b, hcs, hnext⟩ := eq_append_of_cut separator hp
      rcases List.mem_cons.mp h with rfl | h
      · rw [hcs, cut_append_separator separator hlast, hnext, cut_before separator hb] at hp
        exact List.append_cancel_right (hp : _ ++ next :: rest = [piece] ++ next :: rest)
      · exact ih (by simpa using hs) hnext h

/-- Pieces that are cut again at the separators between them: none is cut itself, and only the
last one may end in a backslash. -/
structure Joinable (pieces : List (List Char)) : Prop where
  whole : ∀ piece ∈ pieces, cut separator none none piece = [piece]
  unguarded : ∀ piece ∈ pieces.dropLast, piece.getLast? ≠ some '\\'

theorem joinable_cut (hs : separator ≠ '\\') (cs : List Char) :
    Joinable separator (cut separator none none cs) :=
  ⟨fun _ hp => cut_of_mem_cut separator hs (by simp) hp,
    fun _ hp => getLast?_ne_of_mem_dropLast_cut separator hp⟩

variable {separator}

theorem Joinable.sublist {pieces more : List (List Char)} (h : Joinable separator more)
    (hs : pieces.Sublist more) : Joinable separator pieces := by
  have hlast : pieces.dropLast.Sublist more.dropLast := by
    have htail := hs.reverse.tail
    rwa [List.tail_reverse, List.tail_reverse, List.reverse_sublist] at htail
  exact ⟨fun piece hp => h.whole piece (hs.subset hp),
    fun piece hp => h.unguarded piece (hlast.subset hp)⟩

theorem Joinable.cut_join (hs : separator ≠ '\\') {pieces : List (List Char)}
    (h : Joinable separator pieces) (hne : pieces ≠ []) :
    cut separator none none (join [separator] pieces) = pieces := by
  induction pieces with
  | nil => exact absurd rfl hne
  | cons piece rest ih =>
    have hpiece := h.whole piece List.mem_cons_self
    cases rest with
    | nil => exact hpiece
    | cons next rest =>
      -- No backslash stands in front of the separator, which therefore cuts again.
      have hlast : lastOr none piece ≠ some '\\' := by
        rw [lastOr_none]
        exact h.unguarded piece (by simp)
      have hrest := ih (h.sublist (List.sublist_cons_self piece _)) (by simp)
      have hbefore : some separator ≠ some '\\' := by simpa using hs
      rw [join_cons_cons, List.append_assoc, List.singleton_append,
        cut_append_separator separator hlast, cut_before separator hbefore, hpiece, hrest,
        List.singleton_append]

end

/-- So many pieces, and one more that takes in the rest. -/
def gather (separator : Char) : Nat → List (List Char) → List (List Char)
  | _, [] => []
  | 0, pieces => [join [separator] pieces]
  | cuts + 1, piece :: rest => piece :: gather separator cuts rest

theorem cut_some (separator : Char) (cuts : Nat) (before : Option Char) (cs : List Char) :
    cut separator (some cuts) before cs = gather separator cuts (cut separator none before cs) := by
  induction cs generalizing cuts before with
  | nil => cases cuts <;> simp [cut, gather, join]
  | cons c cs ih =>
    cases cuts with
    | zero =>
      have hjoin := join_cut separator before (c :: cs)
      obtain ⟨piece, rest, hcut⟩ := exists_cut_eq_cons separator before (c :: cs)
      rw [hcut] at hjoin
      rw [hcut, gather, hjoin]
      · rfl
      · simp
    | succ cuts =>
      rw [cut.eq_3 separator (some (cuts + 1)) before c cs (by simp)]
      by_cases hc : c = separator ∧ before ≠ some '\\'
      · rw [if_pos hc, cut_cons_of_separator separator hc.1 hc.2, gather]
        simp [ih]
      · obtain ⟨piece, rest, hcut⟩ := exists_cut_eq_cons separator (some c) cs
        rw [if_neg hc, cut_cons_of_not separator hc, ih, hcut]
        rfl

theorem pieces_two (separator : Char) (cs : List Char) :
    pieces separator (some 2) cs = [cs] ∨
      ∃ a b, pieces separator (some 2) cs = [a, b] ∧ cs = a ++ separator :: b ∧
        a.getLast? ≠ some '\\' := by
  have hp : pieces separator (some 2) cs = gather separator 1 (cut separator none none cs) :=
    cut_some separator 1 none cs
  obtain ⟨piece, rest, hcut⟩ := exists_cut_eq_cons separator none cs
  rw [hcut] at hp
  cases rest with
  | nil =>
    left
    rw [hp, eq_of_cut_eq_singleton separator hcut]
    rfl
  | cons next rest =>
    obtain ⟨hlast, b, hcs, hb⟩ := eq_append_of_cut separator hcut
    have hjoin := join_cut separator (some separator) b
    rw [hb] at hjoin
    refine .inr ⟨piece, b, ?_, hcs, by simpa using hlast⟩
    rw [hp, ← hjoin]
    rfl

theorem unescape_escape (cs : List Char) : unescape (escape cs) = cs := by
  induction cs with
  | nil => rfl
  | cons c cs ih =>
    by_cases h : c = '\\' ∨ c = ',' ∨ c = '='
    · simp [escape, h, unescape, ih]
    · have hc : c ≠ '\\' := fun hc => h (.inl hc)
      rw [escape, if_neg h, unescape.eq_4 c (escape cs) (by simp [hc]) (by simp [hc]), ih]

theorem getLast?_escape (cs : List Char) : (escape cs).getLast? = cs.getLast? := by
  induction cs with
  | nil => rfl
  | cons c cs ih =>
    by_cases h : c = '\\' ∨ c = ',' ∨ c = '='
    · simp [escape, h, List.getLast?_cons, ih]
    · simp [escape, h, List.getLast?_cons, ih]

theorem getLast?_unescape (cs : List Char) : (unescape cs).getLast? = cs.getLast? := by
  fun_induction unescape cs with
  | case1 => rfl
  | case2 => rfl
  | case3 c cs ih => simp [List.getLast?_cons, ih]
  | case4 c cs _ _ ih => simp [List.getLast?_cons, ih]

theorem escape_ne_nil {cs : List Char} (h : cs ≠ []) : escape cs ≠ [] := by
  cases cs with
  | nil => exact absurd rfl h
  | cons c cs => by_cases hc : c = '\\' ∨ c = ',' ∨ c = '=' <;> simp [escape, hc]

theorem unescape_ne_nil {cs : List Char} (h : cs ≠ []) : unescape cs ≠ [] := by
  fun_cases unescape cs <;> simp_all

theorem cut_escape {separator : Char} (h : separator = ',' ∨ separator = '=')
    (before : Option Char) (cs : List Char) :
    cut separator none before (escape cs) = [escape cs] := by
  have hs : '\\' ≠ separator := by rcases h with rfl | rfl <;> decide
  induction cs generalizing before with
  | nil => rfl
  | cons c cs ih =>
    by_cases hc : c = '\\' ∨ c = ',' ∨ c = '='
    · rw [escape, if_pos hc, cut_cons_of_not separator (by simp [hs]),
        cut_cons_of_not separator (by simp), ih]
      rfl
    · have hne : c ≠ separator := by
        rintro rfl
        exact hc (.inr h)
      rw [escape, if_neg hc, cut_cons_of_not separator (by simp [hne]), ih]
      rfl

theorem splitAtFirst_append {separator : Char} {front : List Char} (h : separator ∉ front)
    (rest : List Char) :
    splitAtFirst separator (front ++ separator :: rest) = some (front, rest) := by
  induction front with
  | nil => simp [splitAtFirst]
  | cons c front ih =>
    rw [List.mem_cons, not_or] at h
    simp [splitAtFirst, Ne.symm h.1, ih h.2]

theorem splitAtFirst_eq_none_iff {separator : Char} {cs : List Char} :
    splitAtFirst separator cs = none ↔ separator ∉ cs := by
  induction cs with
  | nil => simp [splitAtFirst]
  | cons c cs ih =>
    rw [splitAtFirst]
    split
    · next h => simp [h]
    · next h => simp [ih, Ne.symm h]

theorem eq_append_of_splitAtFirst {separator : Char} {cs front rest : List Char}
    (h : splitAtFirst separator cs = some (front, rest)) :
    separator ∉ front ∧ cs = front ++ separator :: rest := by
  induction cs generalizing front with
  | nil => simp [splitAtFirst] at h
  | cons c cs ih =>
    rw [splitAtFirst] at h
    split at h
    · next hc =>
      cases h
      simp [hc]
    · next hc =>
      obtain ⟨⟨before, after⟩, hbefore, heq⟩ := Option.map_eq_some_iff.mp h
      cases heq
      obtain ⟨hmem, rfl⟩ := ih hbefore
      simp [hmem, Ne.symm hc]

theorem dropFront?_eq_some_iff {front cs rest : List Char} :
    dropFront? front cs = some rest ↔ cs = front ++ rest :=
  ⟨eq_append_of_dropFront?, fun h => by rw [h, dropFront?_append]⟩

theorem dropBack?_eq_some_iff {back cs rest : List Char} :
    dropBack? back cs = some rest ↔ cs = rest ++ back := by
  have hreverse : cs.reverse = back.reverse ++ rest.reverse ↔ cs = rest ++ back := by
    rw [← List.reverse_append, List.reverse_inj]
  rw [← hreverse, ← dropFront?_eq_some_iff, dropBack?, Option.map_eq_some_iff]
  constructor
  · rintro ⟨rest', h, rfl⟩
    rwa [List.reverse_reverse]
  · exact fun h => ⟨_, h, List.reverse_reverse _⟩

structure FirstAt (word cs front back : List Char) : Prop where
  eq_append : cs = front ++ word ++ back
  first : ∀ front' back', cs = front' ++ word ++ back' → front.length ≤ front'.length

theorem firstAt_of_splitAtWord {word cs front back : List Char}
    (h : splitAtWord word cs = some (front, back)) : FirstAt word cs front back := by
  induction cs generalizing front with
  | nil =>
    rw [splitAtWord, Option.map_eq_some_iff] at h
    obtain ⟨after, hafter, heq⟩ := h
    cases heq
    exact ⟨eq_append_of_dropFront? hafter, fun _ _ _ => Nat.zero_le _⟩
  | cons c cs ih =>
    rw [splitAtWord] at h
    split at h
    · next after hafter =>
      cases h
      exact ⟨eq_append_of_dropFront? hafter, fun _ _ _ => Nat.zero_le _⟩
    · next hnot =>
      obtain ⟨⟨before, after⟩, hbefore, heq⟩ := Option.map_eq_some_iff.mp h
      cases heq
      obtain ⟨hcs, hfirst⟩ := ih hbefore
      refine ⟨by rw [hcs]; rfl, fun front' back' hother => ?_⟩
      cases front' with
      | nil =>
        rw [hother, List.nil_append, dropFront?_append] at hnot
        cases hnot
      | cons d front' =>
        rw [List.cons_append, List.cons_append, List.cons.injEq] at hother
        exact Nat.succ_le_succ (hfirst front' back' hother.2)

theorem exists_splitAtWord_append (front word back : List Char) :
    ∃ before after, splitAtWord word (front ++ word ++ back) = some (before, after) := by
  induction front with
  | nil =>
    cases word with
    | nil => cases back <;> exact ⟨_, _, rfl⟩
    | cons w word =>
      refine ⟨[], back, ?_⟩
      rw [List.nil_append, List.cons_append, splitAtWord, ← List.cons_append, dropFront?_append]
  | cons c front ih =>
    obtain ⟨before, after, h⟩ := ih
    rw [List.cons_append, List.cons_append, splitAtWord, h]
    split
    · exact ⟨_, _, rfl⟩
    · exact ⟨_, _, rfl⟩

theorem splitAtWord_eq_some_iff {word cs front back : List Char} :
    splitAtWord word cs = some (front, back) ↔ FirstAt word cs front back := by
  refine ⟨firstAt_of_splitAtWord, fun h => ?_⟩
  obtain ⟨before, after, hsplit⟩ := exists_splitAtWord_append front word back
  rw [← h.eq_append] at hsplit
  have hfirst := firstAt_of_splitAtWord hsplit
  have hlength : front.length = before.length :=
    Nat.le_antisymm (h.first _ _ hfirst.eq_append) (hfirst.first _ _ h.eq_append)
  have hsame := hfirst.eq_append.symm.trans h.eq_append
  rw [List.append_assoc, List.append_assoc] at hsame
  obtain ⟨rfl, hrest⟩ := List.append_inj hsame hlength.symm
  rw [hsplit, List.append_cancel_left hrest]

end ResourceTrace.Text
