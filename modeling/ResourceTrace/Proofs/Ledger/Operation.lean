import ResourceTrace.Ledger

set_option autoImplicit false

namespace ResourceTrace.Ledger

variable {δ : Type}

/-- `retain` asks once for each record, so that whatever answers it gets form a function. -/
inductive Operation (δ : Type) where
  | add (r : Record δ)
  | remove (h : Handle)
  | reallocate (old : Handle) (r : Record δ)
  | replace (r : Record δ)
  | retain (keep : Record δ → Bool)

def apply (l : Ledger δ) : Operation δ → Ledger δ
  | .add r => match l.add r with
    | .ok l' => l'
    | .error _ => l
  | .remove h => match l.remove h with
    | .ok (_, l') => l'
    | .error _ => l
  | .reallocate old r => (l.reallocate old r).2
  | .replace r => (l.replace r).2
  | .retain keep => (l.retain keep).2

def run (l : Ledger δ) (ops : List (Operation δ)) : Ledger δ := ops.foldl apply l

theorem contains_eq (l : Ledger δ) (h : Handle) : l.contains h = (l.get? h).isSome := rfl

theorem add_of_free {l : Ledger δ} {r : Record δ} (h : l.get? r.handle = none) :
    l.add r = .ok (l.insert r) := by
  simp [add, contains_eq, h]

theorem add_of_present {l : Ledger δ} {r s : Record δ} (h : l.get? r.handle = some s) :
    l.add r = .error (.duplicateHandle r.handle) := by
  simp [add, contains_eq, h]

theorem remove_of_absent {l : Ledger δ} {h : Handle} (hn : l.get? h = none) :
    l.remove h = .error (.unknownHandle h) := by
  simp [remove, hn]

theorem remove_of_present {l : Ledger δ} {h : Handle} {r : Record δ} (hr : l.get? h = some r) :
    l.remove h = .ok (r, l.drop h r) := by
  simp [remove, hr]

@[simp] theorem release_null (l : Ledger δ) : l.release Handle.null = l := rfl

theorem release_of_absent {l : Ledger δ} {old : Handle} (h : l.get? old = none) :
    l.release old = l := by
  simp [release, remove_of_absent h]

theorem release_of_present {l : Ledger δ} {old : Handle} {r : Record δ} (ho : old ≠ Handle.null)
    (h : l.get? old = some r) : l.release old = l.drop old r := by
  simp [release, remove_of_present h, ho]

theorem replace_of_free {l : Ledger δ} {r : Record δ} (h : l.get? r.handle = none) :
    l.replace r = (none, l.insert r) := by
  simp [replace, h]

theorem replace_of_present {l : Ledger δ} {r s : Record δ} (h : l.get? r.handle = some s) :
    l.replace r = (some s, (l.drop r.handle s).insert r) := by
  simp [replace, h]

theorem release_eq_apply (l : Ledger δ) (old : Handle) :
    l.release old = if old.isNull then l else l.apply (.remove old) := rfl

theorem reallocate_eq_apply (l : Ledger δ) (old : Handle) (r : Record δ) :
    (l.reallocate old r).2 =
      if r.size = 0 then l.release old else (l.release old).apply (.add r) := by
  by_cases hz : r.size = 0
  · simp [reallocate, hz]
  · simp only [reallocate, hz, if_false, apply]
    cases (l.release old).add r <;> rfl

theorem replace_eq_apply (l : Ledger δ) (r : Record δ) :
    (l.replace r).2 = (l.apply (.remove r.handle)).insert r := by
  cases hr : l.get? r.handle with
  | none => simp [replace_of_free hr, apply, remove_of_absent hr]
  | some s => simp [replace_of_present hr, apply, remove_of_present hr]

theorem get?_insert (l : Ledger δ) (r : Record δ) (h : Handle) :
    (l.insert r).get? h = if h = r.handle then some r else l.get? h :=
  l.records.get?_put h r.handle r

theorem get?_drop (l : Ledger δ) (k : Handle) (r : Record δ) (h : Handle) :
    (l.drop k r).get? h = if h = k then none else l.get? h :=
  l.records.get?_erase h k

theorem get?_retain (l : Ledger δ) (keep : Record δ → Bool) (h : Handle) :
    (l.retain keep).2.get? h = (l.get? h).filter keep :=
  l.records.get?_filter keep h

theorem get?_release (l : Ledger δ) (old h : Handle) :
    (l.release old).get? h = if h = old ∧ old ≠ Handle.null then none else l.get? h := by
  by_cases ho : old = Handle.null
  · simp [ho]
  · cases hr : l.get? old with
    | none =>
      rw [release_of_absent hr]
      split
      · next hh => rw [hh.1, hr]
      · rfl
    | some r => simp [release_of_present ho hr, get?_drop, ho]

theorem get?_replace (l : Ledger δ) (r : Record δ) (h : Handle) :
    (l.replace r).2.get? h = if h = r.handle then some r else l.get? h := by
  cases hr : l.get? r.handle with
  | none => simp [replace_of_free hr, get?_insert]
  | some s => by_cases hh : h = r.handle <;> simp [replace_of_present hr, get?_insert, get?_drop, hh]

@[simp] theorem sizes_nil : sizes ([] : List (Record δ)) = 0 := rfl

@[simp] theorem sizes_cons (r : Record δ) (rs : List (Record δ)) :
    sizes (r :: rs) = r.size + sizes rs := rfl

theorem sizes_append (rs ss : List (Record δ)) : sizes (rs ++ ss) = sizes rs + sizes ss := by
  induction rs with
  | nil => simp
  | cons r rs ih =>
    simp only [List.cons_append, sizes_cons, ih]
    omega

theorem sizes_eq_zero {rs : List (Record δ)} (h : ∀ r ∈ rs, r.size = 0) : sizes rs = 0 := by
  induction rs with
  | nil => rfl
  | cons r rs ih => simp [h r (by simp), ih fun s hs => h s (by simp [hs])]

theorem sizes_perm {rs ss : List (Record δ)} (h : rs.Perm ss) : sizes rs = sizes ss := by
  induction h with
  | nil => rfl
  | cons r _ ih => rw [sizes_cons, sizes_cons, ih]
  | swap r s rs =>
    simp only [sizes_cons]
    omega
  | trans _ _ ih₁ ih₂ => exact ih₁.trans ih₂

theorem sum_insert {l : Ledger δ} {r : Record δ} (h : l.get? r.handle = none) :
    (l.insert r).sum = l.sum + r.size := by
  simp [sum, insert, Keyed.values, Keyed.toList_put_of_get?_eq_none h, sizes_append]

theorem sum_drop {l : Ledger δ} {h : Handle} {r : Record δ} (hr : l.get? h = some r) :
    (l.drop h r).sum + r.size = l.sum := by
  have hs := sizes_perm ((Keyed.perm_cons_erase hr).map Prod.snd)
  rw [List.map_cons, sizes_cons] at hs
  simp only [sum, drop, Keyed.values, hs]
  omega

theorem size_le_sum {l : Ledger δ} {h : Handle} {r : Record δ} (hr : l.get? h = some r) :
    r.size ≤ l.sum := by
  have hs := sum_drop hr
  omega

theorem sizes_filter (rs : List (Record δ)) (keep : Record δ → Bool) :
    sizes (rs.filter keep) + sizes (rs.filter fun r => !keep r) = sizes rs := by
  induction rs with
  | nil => rfl
  | cons r rs ih =>
    cases hk : keep r <;> simp [hk, ← ih] <;> omega

theorem sum_retain (l : Ledger δ) (keep : Record δ → Bool) :
    (l.retain keep).2.sum + sizes (l.records.values.filter fun r => !keep r) = l.sum := by
  have hv : (l.retain keep).2.sum = sizes (l.records.values.filter keep) :=
    congrArg sizes (l.records.values_filter keep)
  rw [hv, sizes_filter]
  rfl

end ResourceTrace.Ledger
