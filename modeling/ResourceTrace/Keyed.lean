/-!
Values by key. Keys stand in the order in which they first appeared, and a key that is put
again keeps its place and takes the new value. No key occurs twice.
-/

set_option autoImplicit false

namespace ResourceTrace

structure Keyed (κ α : Type) where
  toList : List (κ × α) := []
  nodup : (toList.map Prod.fst).Nodup := by exact List.nodup_nil
  deriving DecidableEq, Repr

namespace Keyed

variable {κ α : Type}

def empty : Keyed κ α := {}

def keys (m : Keyed κ α) : List κ := m.toList.map Prod.fst

def values (m : Keyed κ α) : List α := m.toList.map Prod.snd

def size (m : Keyed κ α) : Nat := m.toList.length

def isEmpty (m : Keyed κ α) : Bool := m.toList.isEmpty

theorem nodup_filter (m : Keyed κ α) (keep : κ × α → Bool) :
    ((m.toList.filter keep).map Prod.fst).Nodup :=
  m.nodup.sublist (List.filter_sublist.map Prod.fst)

def filter (m : Keyed κ α) (keep : α → Bool) : Keyed κ α :=
  ⟨m.toList.filter fun p => keep p.2, m.nodup_filter _⟩

theorem values_filter (m : Keyed κ α) (keep : α → Bool) :
    (m.filter keep).values = m.values.filter keep := by
  simp [values, filter, List.filter_map, Function.comp_def]

variable [DecidableEq κ]

def find (k : κ) : List (κ × α) → Option α
  | [] => none
  | (j, v) :: m => if j = k then some v else find k m

def write (k : κ) (v : α) : List (κ × α) → List (κ × α)
  | [] => [(k, v)]
  | (j, w) :: m => if j = k then (j, v) :: m else (j, w) :: write k v m

def without (k : κ) (m : List (κ × α)) : List (κ × α) := m.filter fun p => decide (p.1 ≠ k)

theorem mem_keys_write (j k : κ) (v : α) (m : List (κ × α)) :
    j ∈ (write k v m).map Prod.fst ↔ j = k ∨ j ∈ m.map Prod.fst := by
  induction m with
  | nil => simp [write]
  | cons p m ih =>
    by_cases h : p.1 = k
    · simp [write, h]
    · simp only [write, h, if_false, List.map_cons, List.mem_cons, ih]
      exact or_left_comm

theorem nodup_write (k : κ) (v : α) {m : List (κ × α)} (h : (m.map Prod.fst).Nodup) :
    ((write k v m).map Prod.fst).Nodup := by
  induction m with
  | nil => simp [write]
  | cons p m ih =>
    obtain ⟨hp, hm⟩ := List.nodup_cons.mp h
    by_cases hk : p.1 = k
    · simpa [write, hk] using h
    · simp only [write, hk, if_false, List.map_cons, List.nodup_cons, mem_keys_write]
      exact ⟨by simpa using hp, ih hm⟩

def get? (m : Keyed κ α) (k : κ) : Option α := find k m.toList

def contains (m : Keyed κ α) (k : κ) : Bool := (m.get? k).isSome

def put (m : Keyed κ α) (k : κ) (v : α) : Keyed κ α :=
  ⟨write k v m.toList, nodup_write k v m.nodup⟩

def erase (m : Keyed κ α) (k : κ) : Keyed κ α :=
  ⟨without k m.toList, m.nodup_filter _⟩

def putAll (m : Keyed κ α) (pairs : List (κ × α)) : Keyed κ α :=
  pairs.foldl (fun m p => m.put p.1 p.2) m

def ofList (pairs : List (κ × α)) : Keyed κ α := empty.putAll pairs

theorem find_write_self (k : κ) (v : α) (m : List (κ × α)) : find k (write k v m) = some v := by
  induction m with
  | nil => simp [write, find]
  | cons p m ih => by_cases h : p.1 = k <;> simp [write, find, h, ih]

theorem find_write_of_ne {j k : κ} (h : j ≠ k) (v : α) (m : List (κ × α)) :
    find j (write k v m) = find j m := by
  induction m with
  | nil => simp [write, find, Ne.symm h]
  | cons p m ih =>
    by_cases hp : p.1 = k
    · simp [write, find, hp, Ne.symm h]
    · simp [write, find, hp, ih]

theorem find_eq_some_iff {m : List (κ × α)} (h : (m.map Prod.fst).Nodup) (k : κ) (v : α) :
    find k m = some v ↔ (k, v) ∈ m := by
  induction m with
  | nil => simp [find]
  | cons p m ih =>
    obtain ⟨hp, hm⟩ := List.nodup_cons.mp h
    by_cases hk : p.1 = k
    · have hn : (k, v) ∉ m := fun hv => hp (hk ▸ List.mem_map_of_mem hv)
      simp [find, hk, hn, Prod.ext_iff, eq_comm]
    · simp [find, hk, ih hm, Prod.ext_iff, Ne.symm hk]

theorem write_of_find_eq_none {k : κ} {m : List (κ × α)} (h : find k m = none) (v : α) :
    write k v m = m ++ [(k, v)] := by
  induction m with
  | nil => rfl
  | cons p m ih =>
    by_cases hp : p.1 = k
    · simp [find, hp] at h
    · simp only [find, hp, if_false] at h
      simp [write, hp, ih h]

theorem without_eq_self {k : κ} {m : List (κ × α)} (h : k ∉ m.map Prod.fst) :
    without k m = m := by
  refine List.filter_eq_self.mpr fun p hp => ?_
  have hne : p.1 ≠ k := fun he => h (he ▸ List.mem_map_of_mem hp)
  simp [hne]

theorem perm_cons_without {k : κ} {v : α} {m : List (κ × α)} (hm : (m.map Prod.fst).Nodup)
    (h : find k m = some v) : m.Perm ((k, v) :: without k m) := by
  induction m with
  | nil => simp [find] at h
  | cons p m ih =>
    obtain ⟨hp, hm⟩ := List.nodup_cons.mp hm
    by_cases hk : p.1 = k
    · simp only [find, hk, if_true, Option.some.injEq] at h
      have hr : without k (p :: m) = m := by
        rw [without, List.filter_cons_of_neg (by simp [hk])]
        exact without_eq_self (hk ▸ hp)
      rw [hr, ← hk, ← h]
    · simp only [find, hk, if_false] at h
      have hr : without k (p :: m) = p :: without k m :=
        List.filter_cons_of_pos (by simp [hk])
      rw [hr]
      exact ((ih hm h).cons p).trans (List.Perm.swap _ _ _)

theorem get?_eq_some_iff (m : Keyed κ α) (k : κ) (v : α) :
    m.get? k = some v ↔ (k, v) ∈ m.toList :=
  find_eq_some_iff m.nodup k v

theorem get?_eq_none_iff (m : Keyed κ α) (k : κ) : m.get? k = none ↔ k ∉ m.keys := by
  simp only [Option.eq_none_iff_forall_ne_some, ne_eq, get?_eq_some_iff, keys, List.mem_map,
    Prod.exists, exists_and_right, exists_eq_right, not_exists]

theorem mem_values_iff (m : Keyed κ α) (v : α) : v ∈ m.values ↔ ∃ k, m.get? k = some v := by
  simp [values, get?_eq_some_iff]

@[simp] theorem get?_empty (k : κ) : ({} : Keyed κ α).get? k = none := rfl

@[simp] theorem get?_put_self (m : Keyed κ α) (k : κ) (v : α) : (m.put k v).get? k = some v :=
  find_write_self k v m.toList

theorem get?_put_of_ne {j k : κ} (h : j ≠ k) (m : Keyed κ α) (v : α) :
    (m.put k v).get? j = m.get? j :=
  find_write_of_ne h v m.toList

theorem get?_put (m : Keyed κ α) (j k : κ) (v : α) :
    (m.put k v).get? j = if j = k then some v else m.get? j := by
  by_cases h : j = k
  · simp [h]
  · rw [if_neg h, get?_put_of_ne h]

theorem get?_erase (m : Keyed κ α) (j k : κ) :
    (m.erase k).get? j = if j = k then none else m.get? j := by
  apply Option.ext
  intro v
  by_cases h : j = k <;> simp [get?_eq_some_iff, erase, without, h]

theorem get?_filter (m : Keyed κ α) (keep : α → Bool) (k : κ) :
    (m.filter keep).get? k = (m.get? k).filter keep := by
  apply Option.ext
  intro v
  simp [get?_eq_some_iff, Option.filter_eq_some_iff, filter]

theorem toList_put_of_get?_eq_none {m : Keyed κ α} {k : κ} (h : m.get? k = none) (v : α) :
    (m.put k v).toList = m.toList ++ [(k, v)] :=
  write_of_find_eq_none h v

theorem perm_cons_erase {m : Keyed κ α} {k : κ} {v : α} (h : m.get? k = some v) :
    m.toList.Perm ((k, v) :: (m.erase k).toList) :=
  perm_cons_without m.nodup h

end Keyed

end ResourceTrace
