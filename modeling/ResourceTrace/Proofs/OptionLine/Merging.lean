import Mathlib.Data.List.Induction
import ResourceTrace.Proofs.OptionLine.Image

set_option autoImplicit false

namespace ResourceTrace

namespace Keyed

variable {κ α : Type} [DecidableEq κ]

/-- The pairs of `m`, each with the value that `n` has for its key, and behind them the pairs of
`n` with other keys. -/
def overridden (m n : Keyed κ α) : List (κ × α) :=
  m.toList.map (fun p => (p.1, (n.get? p.1).getD p.2)) ++
    n.toList.filter fun p => !m.contains p.1

theorem contains_iff (m : Keyed κ α) (k : κ) : m.contains k = true ↔ k ∈ m.keys := by
  rw [contains, Option.isSome_iff_ne_none, ne_eq, get?_eq_none_iff, not_not]

theorem write_append_of_mem {k : κ} {front : List (κ × α)} (h : k ∈ front.map Prod.fst) (v : α)
    (back : List (κ × α)) : write k v (front ++ back) = write k v front ++ back := by
  induction front with
  | nil => simp at h
  | cons p front ih =>
    by_cases hp : p.1 = k
    · simp [write, hp]
    · have hk : k ∈ front.map Prod.fst := by simpa [Ne.symm hp] using h
      simp [write, hp, ih hk]

theorem write_append_of_not_mem {k : κ} {front : List (κ × α)} (h : k ∉ front.map Prod.fst)
    (v : α) (back : List (κ × α)) : write k v (front ++ back) = front ++ write k v back := by
  induction front with
  | nil => rfl
  | cons p front ih =>
    rw [List.map_cons, List.mem_cons, not_or] at h
    simp [write, Ne.symm h.1, ih h.2]

theorem filter_write (keep : κ → Bool) (k : κ) (v : α) (m : List (κ × α)) :
    (write k v m).filter (fun p => keep p.1) =
      if keep k then write k v (m.filter fun p => keep p.1) else m.filter fun p => keep p.1 := by
  induction m with
  | nil => cases hk : keep k <;> simp [write, hk]
  | cons p m ih =>
    by_cases hp : p.1 = k
    · cases hk : keep k <;> simp [write, hp, hk]
    · cases hk : keep k <;> cases hpk : keep p.1 <;> simp [write, hp, hk, hpk, ih]

theorem write_map {k : κ} {m : List (κ × α)} (hm : (m.map Prod.fst).Nodup)
    (hk : k ∈ m.map Prod.fst) (v : α) {f g : κ × α → α} (hself : ∀ p ∈ m, p.1 = k → g p = v)
    (hother : ∀ p ∈ m, p.1 ≠ k → g p = f p) :
    write k v (m.map fun p => (p.1, f p)) = m.map fun p => (p.1, g p) := by
  induction m with
  | nil => simp at hk
  | cons p m ih =>
    rw [List.map_cons, List.nodup_cons] at hm
    rw [List.forall_mem_cons] at hself hother
    by_cases hp : p.1 = k
    · have htail : ∀ q ∈ m, f q = g q := fun q hq =>
        (hother.2 q hq fun hqk => hm.1 (hp.trans hqk.symm ▸ List.mem_map_of_mem hq)).symm
      simp only [List.map_cons, write, hp, if_true, hself.1 hp]
      rw [List.map_congr_left fun q hq => by rw [htail q hq]]
    · have hk' : k ∈ m.map Prod.fst := by simpa [Ne.symm hp] using hk
      simp only [List.map_cons, write, hp, if_false, ih hm.2 hk' hself.2 hother.2, hother.1 hp]

theorem write_overridden (m n : Keyed κ α) (k : κ) (v : α) :
    write k v (m.overridden n) = m.overridden (n.put k v) := by
  have hput : (n.put k v).toList = write k v n.toList := rfl
  have hkeys : (m.toList.map fun p => (p.1, (n.get? p.1).getD p.2)).map Prod.fst = m.keys := by
    simp [keys]
  rw [overridden, overridden, hput, filter_write (fun j => !m.contains j)]
  -- a key of `m` is written among the pairs of `m`, and any other key behind them
  by_cases hk : k ∈ m.keys
  · rw [write_append_of_mem (hkeys ▸ hk), (m.contains_iff k).mpr hk]
    congr 1
    refine write_map m.nodup hk v (fun p _ hp => ?_) fun p _ hp => ?_
    · simp [hp]
    · rw [get?_put_of_ne hp]
  · have hnone : m.contains k = false := by
      rw [← Bool.not_eq_true, contains_iff]
      exact hk
    rw [write_append_of_not_mem (hkeys ▸ hk), hnone]
    congr 1
    refine List.map_congr_left fun p hp => ?_
    have hne : p.1 ≠ k := fun hpk => hk (hpk ▸ List.mem_map_of_mem hp)
    rw [get?_put_of_ne hne]

theorem toList_putAll (m : Keyed κ α) (pairs : List (κ × α)) :
    (m.putAll pairs).toList = m.overridden (ofList pairs) := by
  induction pairs using List.reverseRecOn with
  | nil => simp [putAll, overridden, ofList, empty]
  | append_singleton pairs p ih =>
    have hput : m.putAll (pairs ++ [p]) = (m.putAll pairs).put p.1 p.2 := by simp [putAll]
    rw [hput, ofList_concat, ← write_overridden, ← ih]
    rfl

theorem get?_ofList_append (front back : List (κ × α)) (k : κ) :
    (ofList (front ++ back)).get? k = ((ofList back).get? k).or ((ofList front).get? k) := by
  induction back using List.reverseRecOn with
  | nil => simp [ofList, putAll, empty]
  | append_singleton back p ih =>
    rw [← List.append_assoc, ofList_concat, ofList_concat, get?_put, get?_put, ih]
    split <;> simp

theorem get?_ofList_eq_some_iff {pairs : List (κ × α)} {k : κ} {v : α} :
    (ofList pairs).get? k = some v ↔
      ∃ front back, pairs = front ++ (k, v) :: back ∧ k ∉ back.map Prod.fst := by
  constructor
  · intro h
    induction pairs using List.reverseRecOn with
    | nil => simp [ofList, putAll, empty, get?, find] at h
    | append_singleton pairs p ih =>
      rw [ofList_concat, get?_put] at h
      split at h
      · next hk =>
        obtain rfl := Option.some.inj h
        exact ⟨pairs, [], by rw [hk], by simp⟩
      · next hk =>
        obtain ⟨front, back, rfl, hback⟩ := ih h
        refine ⟨front, back ++ [p], by simp, ?_⟩
        simpa [hk] using hback
  · rintro ⟨front, back, rfl, hback⟩
    have hnone : (ofList back).get? k = none := by
      rwa [get?_eq_none_iff, mem_keys_ofList]
    rw [List.append_cons, get?_ofList_append, hnone, Option.none_or, ofList_concat, get?_put_self]

end Keyed

namespace OptionLine

/-- A segment that sets nothing: it is empty, or no text stands in front of its equals sign. -/
def IsIdle (segment : String) : Prop :=
  segment = "" ∨ ∃ text, segment = "=" ++ text ∧ ',' ∉ text.toList ∧ ¬EndsInBackslash text

theorem IsIdle.readSegments {segment : String} (h : IsIdle segment) :
    readSegments segment.toList = [] := by
  rcases h with rfl | ⟨text, rfl, hcomma, _⟩
  · rfl
  · have hcut : Text.cut ',' none none ('=' :: text.toList) = ['=' :: text.toList] :=
      Text.cut_of_not_mem (by simpa using hcomma) none
    have hnone : readSegment? ('=' :: text.toList) = none := by
      simp [readSegment?, Text.pieces, Text.cut]
    simp [OptionLine.readSegments, Text.pieces, hcut, hnone]

theorem IsIdle.not_endsInBackslash {segment : String} (h : IsIdle segment) :
    ¬EndsInBackslash segment := by
  rcases h with rfl | ⟨text, rfl, _, hlast⟩
  · decide
  · rw [EndsInBackslash] at hlast ⊢
    cases ht : text.toList.getLast? <;> simp_all [List.getLast?_cons]

theorem toList_append_comma (a b : String) :
    (a ++ "," ++ b).toList = a.toList ++ ',' :: b.toList := by simp

theorem parse_append_comma {a : String} (h : ¬EndsInBackslash a) (b : String) :
    (parse (a ++ "," ++ b)).pairs = (parse a).pairs.putAll (readSegments b.toList) := by
  rw [parse, toList_append_comma, readSegments_append_comma h]
  simp [parse, Keyed.ofList, Keyed.putAll]

theorem parse_insert_idle {a segment : String} (ha : ¬EndsInBackslash a) (h : IsIdle segment)
    (b : String) : parse (a ++ "," ++ segment ++ "," ++ b) = parse (a ++ "," ++ b) := by
  have htext : a ++ "," ++ segment ++ "," ++ b = a ++ "," ++ (segment ++ "," ++ b) := by
    simp only [String.append_assoc]
  rw [parse, parse, htext, toList_append_comma, toList_append_comma, toList_append_comma,
    readSegments_append_comma ha, readSegments_append_comma ha,
    readSegments_append_comma h.not_endsInBackslash, h.readSegments, List.nil_append]

/-- The segment that a setting comes from is the last one with its key. -/
theorem get?_parse_eq_some_iff {line key : String} {value : Option String} :
    (parse line).pairs.get? key = some value ↔
      ∃ front segment back, Text.pieces ',' none line.toList = front ++ segment :: back ∧
        readSegment? segment = some (key, value) ∧
        ∀ later ∈ back, ∀ other, readSegment? later ≠ some (key, other) := by
  have hkeys (back : List (List Char)) : key ∉ (back.filterMap readSegment?).map Prod.fst ↔
      ∀ later ∈ back, ∀ other, readSegment? later ≠ some (key, other) := by
    simp
    grind
  rw [parse, Keyed.get?_ofList_eq_some_iff, readSegments]
  constructor
  · rintro ⟨earlier, later, hpairs, hkey⟩
    obtain ⟨front, rest, hpieces, -, hrest⟩ := List.filterMap_eq_append_iff.mp hpairs
    obtain ⟨front', segment, back, hrest', -, hsegment, hback⟩ :=
      List.filterMap_eq_cons_iff.mp hrest
    refine ⟨front ++ front', segment, back, ?_, hsegment, ?_⟩
    · rw [hpieces, hrest', List.append_assoc]
    · rwa [← hkeys, hback]
  · rintro ⟨front, segment, back, hpieces, hsegment, hback⟩
    refine ⟨front.filterMap readSegment?, back.filterMap readSegment?, ?_, (hkeys back).mpr hback⟩
    rw [hpieces, List.filterMap_append, List.filterMap_cons_some hsegment]

/-- A line that goes on behind a comma holds the settings of its first part, overridden by those
of the second; segments that set nothing may be put in or left out between two others; and the
value of a key is that of its last segment. -/
theorem parse_append_overrides :
    (∀ a b : String, ¬EndsInBackslash a →
      (parse (a ++ "," ++ b)).pairs.toList = (parse a).pairs.overridden (parse b).pairs) ∧
    (∀ a segment b : String, ¬EndsInBackslash a → IsIdle segment →
      parse (a ++ "," ++ segment ++ "," ++ b) = parse (a ++ "," ++ b)) ∧
    ∀ line key value, (parse line).pairs.get? key = some value ↔
      ∃ front segment back, Text.pieces ',' none line.toList = front ++ segment :: back ∧
        readSegment? segment = some (key, value) ∧
        ∀ later ∈ back, ∀ other, readSegment? later ≠ some (key, other) := by
  refine ⟨fun a b ha => ?_, fun a segment b ha h => parse_insert_idle ha h b,
    fun _ _ _ => get?_parse_eq_some_iff⟩
  rw [parse_append_comma ha, Keyed.toList_putAll]
  rfl

/-- Keys of both parts in another order, one of them repeated, flags against values, and an escaped
comma in front of the comma between the parts. -/
theorem parse_append_overrides_repeated :
    ¬EndsInBackslash "a=1,b=\\,,c=3,d" ∧
      (parse ("a=1,b=\\,,c=3,d" ++ "," ++ "d=4,e,a=5,c,a=6")).pairs.toList =
        [("a", some "6"), ("b", some ","), ("c", none), ("d", some "4"), ("e", none)] ∧
      IsIdle "=x\\=y" ∧
      parse ("a=1,b=\\,,c=3,d" ++ "," ++ "=x\\=y" ++ "," ++ "d=4,e,a=5,c,a=6") =
        parse ("a=1,b=\\,,c=3,d" ++ "," ++ "d=4,e,a=5,c,a=6") := by
  have hlast : ¬EndsInBackslash "a=1,b=\\,,c=3,d" := by decide
  have hidle : IsIdle "=x\\=y" := .inr ⟨"x\\=y", rfl, by decide, by decide⟩
  refine ⟨hlast, ?_, hidle, parse_append_overrides.2.1 _ _ _ hlast hidle⟩
  rw [parse_append_overrides.1 _ _ hlast]
  decide +kernel

end OptionLine

end ResourceTrace
