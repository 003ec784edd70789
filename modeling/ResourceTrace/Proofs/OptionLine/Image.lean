import Mathlib.Data.List.Induction
import ResourceTrace.OptionLine
import ResourceTrace.Proofs.Text.Pieces

/-!
Option lines and the settings they stand for. Settings that are written are read back, as long
as no text that ends in a backslash stands in front of a comma or an equals sign. A line can
hold such a text only at its end, but a repeated key may move its value to an earlier place; the
settings that lines stand for are exactly those that this allows.
-/

set_option autoImplicit false

namespace ResourceTrace

namespace Keyed

variable {κ α : Type} [DecidableEq κ]

theorem write_of_not_mem {k : κ} {front : List (κ × α)} (h : k ∉ front.map Prod.fst) (v w : α)
    (back : List (κ × α)) : write k v (front ++ (k, w) :: back) = front ++ (k, v) :: back := by
  induction front with
  | nil => simp [write]
  | cons p front ih =>
    rw [List.map_cons, List.mem_cons, not_or] at h
    simp [write, Ne.symm h.1, ih h.2]

theorem ofList_concat (pairs : List (κ × α)) (p : κ × α) :
    ofList (pairs ++ [p]) = (ofList pairs).put p.1 p.2 := by
  simp [ofList, putAll]

theorem mem_keys_ofList (k : κ) (pairs : List (κ × α)) :
    k ∈ (ofList pairs).keys ↔ k ∈ pairs.map Prod.fst := by
  induction pairs using List.reverseRecOn with
  | nil => rfl
  | append_singleton pairs p ih =>
    rw [ofList_concat, keys, put, mem_keys_write, ← keys, ih]
    simp [or_comm]

theorem toList_ofList_concat {k : κ} {pairs : List (κ × α)} (h : k ∉ pairs.map Prod.fst) (v : α) :
    (ofList (pairs ++ [(k, v)])).toList = (ofList pairs).toList ++ [(k, v)] := by
  rw [ofList_concat]
  refine toList_put_of_get?_eq_none ?_ v
  rwa [get?_eq_none_iff, mem_keys_ofList]

theorem toList_ofList {pairs : List (κ × α)} (h : (pairs.map Prod.fst).Nodup) :
    (ofList pairs).toList = pairs := by
  induction pairs using List.reverseRecOn with
  | nil => rfl
  | append_singleton pairs p ih =>
    rw [List.map_append, List.nodup_append] at h
    have hp : p.1 ∉ pairs.map Prod.fst := fun hc => h.2.2 p.1 hc p.1 (by simp) rfl
    rw [toList_ofList_concat hp p.2, ih h.1]

end Keyed

namespace OptionLine

def texts (pairs : List (String × Option String)) : List String :=
  pairs.flatMap fun p => p.1 :: p.2.toList

def EndsInBackslash (s : String) : Prop := s.toList.getLast? = some '\\'

instance (s : String) : Decidable (EndsInBackslash s) :=
  inferInstanceAs (Decidable (s.toList.getLast? = some '\\'))

/-- Only the last text of all may end in a backslash. -/
def Guarded (pairs : List (String × Option String)) : Prop :=
  ∀ s ∈ (texts pairs).dropLast, ¬EndsInBackslash s

/-- What the settings of a line satisfy: one text at most ends in a backslash, and if it is a key,
it is that of a flag at the end. -/
structure Readable (pairs : List (String × Option String)) : Prop where
  key_ne : ∀ p ∈ pairs, p.1 ≠ ""
  nodup : (pairs.map Prod.fst).Nodup
  atMostOne : (texts pairs).countP (fun s => decide (EndsInBackslash s)) ≤ 1
  lastFlag : ∀ p ∈ pairs, EndsInBackslash p.1 → p.2 = none ∧ pairs.getLast? = some p

@[simp] theorem texts_nil : texts [] = [] := rfl

@[simp] theorem texts_cons (p : String × Option String) (pairs : List (String × Option String)) :
    texts (p :: pairs) = p.1 :: (p.2.toList ++ texts pairs) := by
  simp [texts]

@[simp] theorem texts_append (pairs more : List (String × Option String)) :
    texts (pairs ++ more) = texts pairs ++ texts more := by
  simp [texts]

theorem endsInBackslash_readText (cs : List Char) :
    EndsInBackslash (readText cs) ↔ cs.getLast? = some '\\' := by
  simp [EndsInBackslash, readText, Text.getLast?_unescape]

theorem readText_escape (s : String) : readText (Text.escape s.toList) = s := by
  simp [readText, Text.unescape_escape]

theorem readText_ne_empty {cs : List Char} (h : cs ≠ []) : readText cs ≠ "" := by
  intro hc
  have hl := congrArg String.toList hc
  simp [readText, Text.unescape_ne_nil h] at hl

theorem readSegment?_eq_some {segment : List Char} {p : String × Option String}
    (h : readSegment? segment = some p) :
    segment ≠ [] ∧ p = (readText segment, none) ∨
      ∃ key value, segment = key ++ '=' :: value ∧ key ≠ [] ∧ key.getLast? ≠ some '\\' ∧
        p = (readText key, some (readText value)) := by
  rcases Text.pieces_two '=' segment with hp | ⟨key, value, hp, hsegment, hlast⟩
  · rw [readSegment?, hp] at h
    cases segment with
    | nil => simp at h
    | cons c cs => exact .inl ⟨by simp, by simpa using h.symm⟩
  · rw [readSegment?, hp] at h
    cases key with
    | nil => simp at h
    | cons c cs =>
      exact .inr ⟨c :: cs, value, hsegment, by simp, hlast, by simpa using h.symm⟩

theorem key_ne_of_readSegment? {segment : List Char} {p : String × Option String}
    (h : readSegment? segment = some p) : p.1 ≠ "" := by
  rcases readSegment?_eq_some h with ⟨hne, rfl⟩ | ⟨key, value, _, hne, _, rfl⟩
  · exact readText_ne_empty hne
  · exact readText_ne_empty hne

theorem guarded_of_readSegment? {segment : List Char} {p : String × Option String}
    (h : readSegment? segment = some p) : Guarded [p] := by
  rcases readSegment?_eq_some h with ⟨_, rfl⟩ | ⟨key, value, _, _, hlast, rfl⟩
  · simp [Guarded]
  · simpa [Guarded, endsInBackslash_readText] using hlast

theorem not_endsInBackslash_of_readSegment? {segment : List Char} {p : String × Option String}
    (h : readSegment? segment = some p) (hs : segment.getLast? ≠ some '\\') :
    ∀ s ∈ texts [p], ¬EndsInBackslash s := by
  rcases readSegment?_eq_some h with ⟨_, rfl⟩ | ⟨key, value, hsegment, _, hlast, rfl⟩
  · simpa [endsInBackslash_readText] using hs
  · have hvalue : value.getLast? ≠ some '\\' := by
      intro hv
      simp [hsegment, List.getLast?_cons, hv] at hs
    simp [endsInBackslash_readText, hlast, hvalue]

theorem readSegments_append_comma {a : List Char} (h : a.getLast? ≠ some '\\') (b : List Char) :
    readSegments (a ++ ',' :: b) = readSegments a ++ readSegments b := by
  have hcut : Text.cut ',' none none (a ++ ',' :: b) =
      Text.cut ',' none none a ++ Text.cut ',' none none b := by
    have hb : some ',' ≠ some '\\' := by decide
    rw [Text.cut_append_separator ',' (by simpa using h), Text.cut_before ',' hb]
  simp only [readSegments, Text.pieces, Option.map_none, hcut, List.filterMap_append]

theorem key_ne_of_mem_readSegments {cs : List Char} {p : String × Option String}
    (h : p ∈ readSegments cs) : p.1 ≠ "" := by
  obtain ⟨segment, _, hp⟩ := List.mem_filterMap.mp h
  exact key_ne_of_readSegment? hp

theorem guarded_cons_cons (p q : String × Option String) (pairs : List (String × Option String)) :
    Guarded (p :: q :: pairs) ↔ (∀ s ∈ texts [p], ¬EndsInBackslash s) ∧ Guarded (q :: pairs) := by
  have htexts : (texts (p :: q :: pairs)).dropLast = texts [p] ++ (texts (q :: pairs)).dropLast := by
    rw [← List.singleton_append, texts_append, List.dropLast_append_of_ne_nil (by simp)]
  rw [Guarded, htexts, List.forall_mem_append]
  rfl

theorem Guarded.cons {p : String × Option String} {pairs : List (String × Option String)}
    (h : Guarded pairs) (hp : ∀ s ∈ texts [p], ¬EndsInBackslash s) : Guarded (p :: pairs) := by
  cases pairs with
  | nil => exact fun s hs => hp s (List.dropLast_subset _ hs)
  | cons q pairs => exact (guarded_cons_cons p q pairs).mpr ⟨hp, h⟩

theorem guarded_filterMap {segments : List (List Char)}
    (h : ∀ segment ∈ segments.dropLast, segment.getLast? ≠ some '\\') :
    Guarded (segments.filterMap readSegment?) := by
  induction segments with
  | nil => simp [Guarded]
  | cons segment rest ih =>
    cases rest with
    | nil =>
      cases hp : readSegment? segment with
      | none => simp [Guarded, hp]
      | some p => simpa [hp] using guarded_of_readSegment? hp
    | cons next rest =>
      rw [List.dropLast_cons_cons, List.forall_mem_cons] at h
      have hrest := ih h.2
      cases hp : readSegment? segment with
      | none => simpa [List.filterMap_cons, hp] using hrest
      | some p =>
        rw [List.filterMap_cons, hp]
        exact hrest.cons (not_endsInBackslash_of_readSegment? hp h.1)

/-- Before repeated keys are merged, only the very last text may end in a backslash. -/
theorem guarded_readSegments (cs : List Char) : Guarded (readSegments cs) :=
  guarded_filterMap fun _ hs => Text.getLast?_ne_of_mem_dropLast_cut ',' hs

theorem readSegments_writeSetting {p : String × Option String} (hk : p.1 ≠ "")
    (hp : Guarded [p]) : readSegments (writeSetting p) = [p] := by
  obtain ⟨key, value⟩ := p
  have hne : Text.escape key.toList ≠ [] := Text.escape_ne_nil (by simpa using hk)
  cases value with
  | none =>
    have hcut := Text.cut_escape (.inl rfl) none key.toList
    have hpieces : Text.pieces '=' (some 2) (Text.escape key.toList) = [Text.escape key.toList] := by
      rw [Text.pieces, Option.map_some, Text.cut_some, Text.cut_escape (.inr rfl)]
      rfl
    rw [readSegments, Text.pieces, Option.map_none, writeSetting, hcut]
    simp [readSegment?, hpieces, hne, readText_escape]
  | some value =>
    have hkey : (Text.escape key.toList).getLast? ≠ some '\\' := by
      rw [Text.getLast?_escape]
      exact hp key (by simp)
    have hcut : Text.cut ',' none none (writeSetting (key, some value)) =
        [writeSetting (key, some value)] := by
      refine Text.cut_append ',' (Text.cut_escape (.inl rfl) none key.toList) ?_
      rw [Text.cut_cons_of_not ',' (by simp), Text.cut_escape (.inl rfl)]
      rfl
    have hpieces : Text.pieces '=' (some 2) (writeSetting (key, some value)) =
        [Text.escape key.toList, Text.escape value.toList] := by
      rw [Text.pieces, Option.map_some, Text.cut_some, writeSetting,
        Text.cut_append_separator '=' (by simpa using hkey), Text.cut_escape (.inr rfl),
        Text.cut_escape (.inr rfl)]
      rfl
    rw [readSegments, Text.pieces, Option.map_none, hcut]
    simp [readSegment?, hpieces, hne, readText_escape]

theorem getLast?_writeSetting {p : String × Option String}
    (h : ∀ s ∈ texts [p], ¬EndsInBackslash s) : (writeSetting p).getLast? ≠ some '\\' := by
  obtain ⟨key, value⟩ := p
  cases value with
  | none => simpa [writeSetting, Text.getLast?_escape, EndsInBackslash] using h
  | some value =>
    have hvalue : ¬EndsInBackslash value := h value (by simp)
    intro hc
    cases hv : value.toList.getLast? <;>
      simp_all [writeSetting, List.getLast?_append, List.getLast?_cons, Text.getLast?_escape,
        EndsInBackslash]

theorem readSegments_write {pairs : List (String × Option String)} (hk : ∀ p ∈ pairs, p.1 ≠ "")
    (h : Guarded pairs) : readSegments (Text.join [','] (pairs.map writeSetting)) = pairs := by
  induction pairs with
  | nil => rfl
  | cons p rest ih =>
    rw [List.forall_mem_cons] at hk
    cases rest with
    | nil => exact readSegments_writeSetting hk.1 h
    | cons q rest =>
      obtain ⟨hp, hrest⟩ := (guarded_cons_cons p q rest).mp h
      have hjoin : Text.join [','] ((p :: q :: rest).map writeSetting) =
          writeSetting p ++ ',' :: Text.join [','] ((q :: rest).map writeSetting) := by
        simp
      rw [hjoin, readSegments_append_comma (getLast?_writeSetting hp), ih hk.2 hrest,
        readSegments_writeSetting hk.1 fun s hs => hp s (List.dropLast_subset _ hs)]
      rfl

theorem mem_texts_of_key {p : String × Option String} {pairs : List (String × Option String)}
    (h : p.1 ∈ pairs.map Prod.fst) : p.1 ∈ texts pairs := by
  obtain ⟨q, hq, hqp⟩ := List.mem_map.mp h
  exact List.mem_flatMap.mpr ⟨q, hq, by simp [hqp]⟩

theorem countP_texts_write (test : String → Bool) (key : String) (value : Option String)
    (pairs : List (String × Option String)) :
    (texts (Keyed.write key value pairs)).countP test ≤
      (texts pairs).countP test + (texts [(key, value)]).countP test := by
  induction pairs with
  | nil => simp [Keyed.write]
  | cons p pairs ih =>
    by_cases hp : p.1 = key
    · simp only [Keyed.write, hp, if_true, texts_cons, texts_nil, List.countP_cons,
        List.countP_append, List.append_nil]
      omega
    · simp only [Keyed.write, hp, if_false, texts_cons, texts_nil, List.countP_cons,
        List.countP_append, List.append_nil] at ih ⊢
      omega

/-- A repeated key gives up a value, and no text comes in addition. -/
theorem countP_texts_ofList (test : String → Bool) (pairs : List (String × Option String)) :
    (texts (Keyed.ofList pairs).toList).countP test ≤ (texts pairs).countP test := by
  induction pairs using List.reverseRecOn with
  | nil => exact Nat.le_refl 0
  | append_singleton pairs p ih =>
    have hwrite := countP_texts_write test p.1 p.2 (Keyed.ofList pairs).toList
    rw [Keyed.ofList_concat, texts_append, List.countP_append]
    exact Nat.le_trans hwrite (Nat.add_le_add_right ih _)

theorem countP_texts_le_one {pairs : List (String × Option String)} (h : Guarded pairs) :
    (texts pairs).countP (fun s => decide (EndsInBackslash s)) ≤ 1 := by
  rw [Guarded] at h
  rcases List.eq_nil_or_concat (texts pairs) with hnil | ⟨front, last, hlast⟩
  · simp [hnil]
  · rw [hlast, List.concat_eq_append, List.dropLast_concat] at h
    have hfront : front.countP (fun s => decide (EndsInBackslash s)) = 0 :=
      List.countP_eq_zero.mpr fun s hs => by simpa using h s hs
    rw [hlast, List.concat_eq_append, List.countP_append, hfront, List.countP_singleton]
    split <;> omega

theorem Guarded.eq_concat {p : String × Option String} {pairs : List (String × Option String)}
    (h : Guarded pairs) (hp : p ∈ pairs) (hkey : EndsInBackslash p.1) :
    ∃ front, pairs = front ++ [p] ∧ p.2 = none ∧ p.1 ∉ front.map Prod.fst := by
  obtain ⟨front, back, rfl⟩ := List.append_of_mem hp
  -- The key would be guarded if any text came after it.
  have hback : p.2.toList ++ texts back = [] := by
    by_contra hne
    refine h p.1 ?_ hkey
    rw [texts_append, texts_cons, List.dropLast_append_of_ne_nil (by simp),
      List.dropLast_cons_of_ne_nil hne]
    simp
  obtain ⟨hvalue, hback⟩ := List.append_eq_nil_iff.mp hback
  have hnone : p.2 = none := by simpa using hvalue
  have hnil : back = [] := by
    cases back with
    | nil => rfl
    | cons q back => simp at hback
  subst hnil
  refine ⟨front, rfl, hnone, fun hfront => h p.1 ?_ hkey⟩
  simp [hnone, mem_texts_of_key hfront]

theorem Guarded.readable {pairs : List (String × Option String)} (h : Guarded pairs)
    (hk : ∀ p ∈ pairs, p.1 ≠ "") : Readable (Keyed.ofList pairs).toList where
  key_ne p hp := by
    have hkey : p.1 ∈ pairs.map Prod.fst :=
      (Keyed.mem_keys_ofList p.1 pairs).mp (List.mem_map_of_mem hp)
    obtain ⟨q, hq, hqp⟩ := List.mem_map.mp hkey
    exact hqp ▸ hk q hq
  nodup := (Keyed.ofList pairs).nodup
  atMostOne := Nat.le_trans (countP_texts_ofList _ pairs) (countP_texts_le_one h)
  lastFlag p hp hends := by
    have hkey : p.1 ∈ pairs.map Prod.fst :=
      (Keyed.mem_keys_ofList p.1 pairs).mp (List.mem_map_of_mem hp)
    obtain ⟨⟨key, value⟩, hq, hqp⟩ := List.mem_map.mp hkey
    obtain ⟨front, rfl, hvalue, hfront⟩ := h.eq_concat hq (by simpa [← hqp] using hends)
    have hlist := Keyed.toList_ofList_concat hfront value
    rw [hlist] at hp ⊢
    simp only at hqp hvalue
    rcases List.mem_append.mp hp with hp | hp
    · -- The key is new, so that no pair in front of it can have it.
      have hold := (Keyed.mem_keys_ofList p.1 front).mp (List.mem_map_of_mem hp)
      exact absurd (hqp ▸ hold) hfront
    · rw [List.mem_singleton] at hp
      subst hp
      exact ⟨hvalue, by simp⟩

theorem Readable.guarded {pairs : List (String × Option String)} (h : Readable pairs)
    (hvalue : ∀ p ∈ pairs, ∀ value, p.2 = some value → ¬EndsInBackslash value) :
    Guarded pairs := by
  intro s hs hends
  obtain ⟨p, hp, hsp⟩ := List.mem_flatMap.mp (List.dropLast_subset _ hs)
  rcases List.mem_cons.mp hsp with rfl | hsp
  · obtain ⟨hnone, hlast⟩ := h.lastFlag p hp hends
    obtain ⟨front, rfl⟩ := List.getLast?_eq_some_iff.mp hlast
    -- The key at the end is one such text, and `s` would be another one.
    have htexts : texts (front ++ [p]) = texts front ++ [p.1] := by simp [hnone]
    have hone := h.atMostOne
    rw [htexts, List.dropLast_concat] at hs
    rw [htexts, List.countP_append, List.countP_singleton, if_pos (by simpa using hends)] at hone
    have hfront : 0 < (texts front).countP (fun s => decide (EndsInBackslash s)) :=
      List.countP_pos_iff.mpr ⟨p.1, hs, by simpa using hends⟩
    omega
  · exact hvalue p hp s (Option.mem_toList.mp hsp) hends

/-- The one value that ends in a backslash may be given in a repetition of its key at the end. -/
theorem Readable.guarded_repeated {front back : List (String × Option String)} {key value : String}
    (h : Readable (front ++ (key, some value) :: back)) (hends : EndsInBackslash value) :
    Guarded (front ++ (key, none) :: back ++ [(key, some value)]) := by
  have hothers : (texts front ++ key :: texts back).countP
      (fun s => decide (EndsInBackslash s)) = 0 := by
    have hone := h.atMostOne
    have hvalue : decide (EndsInBackslash value) = true := by simpa using hends
    simp only [texts_append, texts_cons, Option.toList_some, List.singleton_append,
      List.countP_append, List.countP_cons, hvalue, if_true] at hone ⊢
    omega
  have htexts : texts (front ++ (key, none) :: back ++ [(key, some value)]) =
      (texts front ++ key :: texts back ++ [key]) ++ [value] := by simp
  intro s hs
  rw [htexts, List.dropLast_concat] at hs
  have hmem : s ∈ texts front ++ key :: texts back := by
    rcases List.mem_append.mp hs with hs | hs
    · exact hs
    · simp [List.mem_singleton.mp hs]
  simpa using List.countP_eq_zero.mp hothers s hmem

theorem Readable.exists_guarded {pairs : List (String × Option String)} (h : Readable pairs) :
    ∃ written : List (String × Option String), (∀ p ∈ written, p.1 ≠ "") ∧ Guarded written ∧
      (Keyed.ofList written).toList = pairs := by
  by_cases hvalue : ∀ p ∈ pairs, ∀ value, p.2 = some value → ¬EndsInBackslash value
  · exact ⟨pairs, h.key_ne, h.guarded hvalue, Keyed.toList_ofList h.nodup⟩
  · simp only [not_forall, not_not] at hvalue
    obtain ⟨⟨key, _⟩, hmem, value, rfl, hends⟩ := hvalue
    obtain ⟨front, back, rfl⟩ := List.append_of_mem hmem
    -- The key stands as a flag in its place, and comes with its value at the very end.
    refine ⟨front ++ (key, none) :: back ++ [(key, some value)], ?_, h.guarded_repeated hends, ?_⟩
    · have hk := h.key_ne
      simp only [List.forall_mem_append, List.forall_mem_cons] at hk ⊢
      exact ⟨⟨hk.1, hk.2.1, hk.2.2⟩, hk.2.1, by simp⟩
    · have hnodup : ((front ++ (key, none) :: back).map Prod.fst).Nodup := by simpa using h.nodup
      have hfront : key ∉ front.map Prod.fst := by
        intro hkey
        rw [List.map_append, List.nodup_append] at hnodup
        exact hnodup.2.2 key hkey key (by simp) rfl
      rw [Keyed.ofList_concat]
      show Keyed.write key (some value) (Keyed.ofList (front ++ (key, none) :: back)).toList = _
      rw [Keyed.toList_ofList hnodup, Keyed.write_of_not_mem hfront]

theorem parse_write {pairs : List (String × Option String)} (hk : ∀ p ∈ pairs, p.1 ≠ "")
    (h : Guarded pairs) : (parse (write pairs)).pairs = Keyed.ofList pairs := by
  rw [parse, write, String.toList_ofList, readSegments_write hk h]

/-- Settings with keys of their own are read back as they were written, in their order, if at
most the last of their texts ends in a backslash. The settings that lines stand for are exactly
those with keys of their own of which at most one text ends in a backslash, and if this is a key,
it is that of a flag at the end. -/
theorem parse_write_and_image :
    (∀ pairs : List (String × Option String), (∀ p ∈ pairs, p.1 ≠ "") →
      (pairs.map Prod.fst).Nodup → (∀ s ∈ (texts pairs).dropLast, ¬EndsInBackslash s) →
      (parse (write pairs)).pairs.toList = pairs) ∧
    ∀ pairs, (∃ line, (parse line).pairs.toList = pairs) ↔ Readable pairs := by
  refine ⟨?_, fun pairs => ⟨?_, ?_⟩⟩
  · intro pairs hk hnodup hguarded
    rw [parse_write hk hguarded, Keyed.toList_ofList hnodup]
  · rintro ⟨line, rfl⟩
    exact (guarded_readSegments line.toList).readable fun _ hp => key_ne_of_mem_readSegments hp
  · intro h
    obtain ⟨written, hk, hguarded, hpairs⟩ := h.exists_guarded
    exact ⟨write written, by rw [parse_write hk hguarded, hpairs]⟩

/-- Separators and backslashes inside the texts, an empty value, and a backslash at the end. -/
def escapedPairs : List (String × Option String) :=
  [("a,b", some "x\\y="), ("=\\=", none), ("c", some ""), ("d", some "C:\\dir\\")]

theorem parse_write_escaped :
    (∀ p ∈ escapedPairs, p.1 ≠ "") ∧ (escapedPairs.map Prod.fst).Nodup ∧
      (∀ s ∈ (texts escapedPairs).dropLast, ¬EndsInBackslash s) ∧
      (parse (write escapedPairs)).pairs.toList = escapedPairs ∧
      ∃ line, (parse line).pairs.toList = [("a", some "\\"), ("b", none)] := by
  have hk : ∀ p ∈ escapedPairs, p.1 ≠ "" := by decide
  have hnodup : (escapedPairs.map Prod.fst).Nodup := by decide
  have hguarded : ∀ s ∈ (texts escapedPairs).dropLast, ¬EndsInBackslash s := by decide
  have hmoved : Readable [("a", some "\\"), ("b", none)] :=
    ⟨by decide, by decide, by decide, by decide⟩
  exact ⟨hk, hnodup, hguarded, parse_write_and_image.1 escapedPairs hk hnodup hguarded,
    (parse_write_and_image.2 _).mpr hmoved⟩

end OptionLine

end ResourceTrace
