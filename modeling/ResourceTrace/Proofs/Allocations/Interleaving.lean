import ResourceTrace.Proofs.Allocations.Correction

set_option autoImplicit false

namespace ResourceTrace.Allocations

/-- A call that ends in the ledger: a result, with a null `old` for an allocation and with the
record of the new block, or a free. -/
inductive Call where
  | result (old : Handle) (r : Record Unit)
  | free (p : Handle)
  deriving DecidableEq, Repr

namespace Call

def alone (l : Ledger Unit) : Call → Ledger Unit
  | result old r => if old.isNull then (allocate l r).1 else (reallocate l old r).1
  | free p => (Allocations.free l p).1

def attempt (l : Ledger Unit) : Call → Ledger Unit × Bool
  | result old r =>
    if old.isNull then
      if r.handle.isNull then (l, false)
      else match l.add r with
        | .ok l' => (l', false)
        | .error _ => (l, true)
    else if r.handle.isNull && decide (0 < r.size) then (l, false)
    else match l.reallocate old r with
      | (.ok _, l') => (l', false)
      | (.error _, l') => (l', true)
  | free p => ((Allocations.free l p).1, false)

def correct (l : Ledger Unit) : Call → Ledger Unit
  | result _ r => (l.replace r).2
  | free _ => l

theorem settle_eq_alone (l : Ledger Unit) {event : Buffer} {n : Nat}
    (hsize : stagedSize? event = some n) (q : Handle) (stack : Stack) (now : Moment) :
    (settle l event q stack now).1 =
      alone l (.result (stagedOld event) ⟨q, n, now,
        if stagedOld event = Handle.null ∨ 0 < n then stack else [], ()⟩) := by
  by_cases hold : stagedOld event = Handle.null <;> simp [settle, alone, hsize, hold]

/-- A call alone is its strict operation, with the correction behind it if there is need for one. -/
theorem alone_eq (l : Ledger Unit) (c : Call) :
    alone l c = if (attempt l c).2 then correct (attempt l c).1 c else (attempt l c).1 := by
  cases c with
  | free p => rfl
  | result old r =>
    by_cases hold : old = Handle.null
    · by_cases hq : r.handle = Handle.null
      · simp [alone, attempt, allocate, hold, hq]
      · cases hr : l.add r <;> simp [alone, attempt, allocate, correct, hold, hq, hr]
    · by_cases hfailed : r.handle = Handle.null ∧ 0 < r.size
      · simp [alone, attempt, reallocate, hold, hfailed]
      · have hcond : ¬(r.handle.isNull && decide (0 < r.size)) = true := by simpa using hfailed
        simp only [alone, attempt, reallocate, Handle.isNull_iff, hold, if_false, if_neg hcond]
        cases hr : l.reallocate old r with
        | mk answer l' => cases answer <;> simp [correct]

end Call

abbrev Write := Handle × Option (Record Unit)

abbrev Writes := List Write

namespace Writes

def apply : Writes → (Handle → Option (Record Unit)) → Handle → Option (Record Unit)
  | [], records => records
  | w :: ws, records => apply ws (Function.update records w.1 w.2)

def Touches (ws : Writes) (h : Handle) : Prop := ∃ w ∈ ws, w.1 = h

def Stores (ws : Writes) (h : Handle) : Prop := ∃ w ∈ ws, w.1 = h ∧ w.2.isSome = true

instance (ws : Writes) (h : Handle) : Decidable (ws.Touches h) :=
  inferInstanceAs (Decidable (∃ w ∈ ws, w.1 = h))

instance (ws : Writes) (h : Handle) : Decidable (ws.Stores h) :=
  inferInstanceAs (Decidable (∃ w ∈ ws, w.1 = h ∧ w.2.isSome = true))

variable {ws vs : Writes} {records : Handle → Option (Record Unit)} {h : Handle}

@[simp] theorem apply_nil : apply [] records = records := rfl

@[simp] theorem apply_cons (w : Write) :
    apply (w :: ws) records = apply ws (Function.update records w.1 w.2) := rfl

@[simp] theorem apply_append : apply (ws ++ vs) records = apply vs (apply ws records) := by
  induction ws generalizing records with
  | nil => rfl
  | cons w ws ih => exact ih

@[simp] theorem touches_append : Touches (ws ++ vs) h ↔ Touches ws h ∨ Touches vs h := by
  simp [Touches, or_and_right, exists_or]

@[simp] theorem stores_append : Stores (ws ++ vs) h ↔ Stores ws h ∨ Stores vs h := by
  simp [Stores, or_and_right, exists_or]

theorem apply_of_not_touches (hw : ¬Touches ws h) : apply ws records h = records h := by
  induction ws generalizing records with
  | nil => rfl
  | cons w ws ih =>
    have hne : h ≠ w.1 := fun he => hw ⟨w, by simp, he.symm⟩
    have hrest : ¬Touches ws h := fun ⟨v, hv, he⟩ => hw ⟨v, by simp [hv], he⟩
    rw [apply_cons, ih hrest, Function.update_of_ne hne]

theorem apply_congr {records' : Handle → Option (Record Unit)} (he : records h = records' h) :
    apply ws records h = apply ws records' h := by
  induction ws generalizing records records' with
  | nil => exact he
  | cons w ws ih =>
    rw [apply_cons, apply_cons]
    refine ih ?_
    by_cases hw : h = w.1
    · rw [hw, Function.update_self, Function.update_self]
    · rw [Function.update_of_ne hw, Function.update_of_ne hw, he]

theorem apply_of_not_stores (hw : ¬Stores ws h) (hnone : records h = none) :
    apply ws records h = none := by
  induction ws generalizing records with
  | nil => exact hnone
  | cons w ws ih =>
    rw [apply_cons]
    refine ih (fun ⟨v, hv, he⟩ => hw ⟨v, by simp [hv], he⟩) ?_
    by_cases hk : h = w.1
    · rw [hk, Function.update_self, ← Option.not_isSome_iff_eq_none]
      exact fun hsome => hw ⟨w, by simp, hk.symm, hsome⟩
    · rw [Function.update_of_ne hk, hnone]

end Writes

def released (old : Handle) : Writes := if old = Handle.null then [] else [(old, none)]

theorem touches_released {old h : Handle} (ht : (released old).Touches h) : h = old := by
  obtain ⟨w, hw, rfl⟩ := ht
  rw [released] at hw
  split at hw
  · simp at hw
  · rw [List.mem_singleton.mp hw]

theorem not_stores_released (old h : Handle) : ¬(released old).Stores h := by
  rw [released]
  split <;> simp [Writes.Stores]

theorem apply_released_self {old : Handle} (ho : old ≠ Handle.null)
    (records : Handle → Option (Record Unit)) : (released old).apply records old = none := by
  simp [released, ho]

theorem apply_released (l : Ledger Unit) (old : Handle) :
    (released old).apply l.get? = (l.release old).get? := by
  by_cases ho : old = Handle.null
  · simp [released, ho]
  · simp [released, ho, Ledger.get?_release_eq l ho]

namespace Call

/-- What a call comes to, whatever the ledger holds. -/
def writes : Call → Writes
  | result old r =>
    if r.handle = Handle.null ∧ (old = Handle.null ∨ 0 < r.size) then []
    else if old ≠ Handle.null ∧ r.size = 0 then released old
    else released old ++ [(r.handle, some r)]
  | free p => released p

@[simp] theorem writes_free (p : Handle) : (free p).writes = released p := rfl

theorem get?_alone (l : Ledger Unit) (c : Call) : (alone l c).get? = c.writes.apply l.get? := by
  cases c with
  | free p =>
    rw [alone, writes, apply_released]
    by_cases hp : p = Handle.null
    · simp [Allocations.free, hp]
    · cases hr : l.get? p with
      | none => simp [Allocations.free, hp, Ledger.remove_of_absent hr, Ledger.release_of_absent hr]
      | some r =>
        simp [Allocations.free, hp, Ledger.remove_of_present hr, Ledger.release_of_present hp hr]
  | result old r =>
    by_cases hold : old = Handle.null
    · by_cases hq : r.handle = Handle.null <;>
        simp [alone, writes, released, hold, hq, get?_allocate]
    · by_cases hz : r.size = 0
      · simp [alone, writes, released, hold, hz, get?_reallocate]
      · by_cases hq : r.handle = Handle.null <;>
          simp [alone, writes, released, hold, hz, hq, get?_reallocate, Nat.pos_of_ne_zero hz]

theorem get?_of_finished {l l' : Ledger Unit} {c : Call} (h : attempt l c = (l', false)) :
    l'.get? = c.writes.apply l.get? := by
  rw [← get?_alone, alone_eq, h]
  rfl

theorem of_refused {l l' : Ledger Unit} {old : Handle} {r : Record Unit}
    (h : attempt l (.result old r) = (l', true)) :
    r.handle ≠ Handle.null ∧
      (result old r).writes = released old ++ [(r.handle, some r)] ∧
      l'.get? = (released old).apply l.get? ∧ l'.get? r.handle ≠ none := by
  rw [apply_released]
  -- A null result and a size of zero meet no duplicate, which leaves a record in the way.
  by_cases hold : old = Handle.null
  · by_cases hq : r.handle = Handle.null
    · simp [attempt, hold, hq] at h
    · cases hr : l.get? r.handle with
      | none => simp [attempt, hold, hq, Ledger.add_of_free hr] at h
      | some s =>
        obtain rfl : l = l' := by simpa [attempt, hold, hq, Ledger.add_of_present hr] using h
        simp [writes, hold, hq, hr]
  · have hcond : (r.handle.isNull && decide (0 < r.size)) = false := by
      by_contra hc
      simp only [Bool.not_eq_false] at hc
      simp [attempt, hold, hc] at h
    have hz : r.size ≠ 0 := by
      intro hz
      simp [attempt, hold, hz, Ledger.reallocate] at h
    have hq : r.handle ≠ Handle.null := by
      intro hq
      have hnull : Handle.null.isNull = true := rfl
      simp [hq, hnull, Nat.pos_of_ne_zero hz] at hcond
    cases hr : (l.release old).get? r.handle with
    | none => simp [attempt, hold, hq, hz, Ledger.reallocate, Ledger.add_of_free hr] at h
    | some s =>
      obtain rfl : l.release old = l' := by
        simpa [attempt, hold, hq, hz, Ledger.reallocate, Ledger.add_of_present hr] using h
      simp [writes, hold, hq, hz, hr]

end Call

/-- A ledger that is shared, and the correction that each thread still owes it. -/
structure Shared where
  ledger : Ledger Unit
  owed : Nat → Option (Handle × Record Unit) := fun _ => none

inductive Event where
  | finished (thread : Nat) (c : Call)
  | refused (thread : Nat) (old : Handle) (r : Record Unit)
  | corrected (thread : Nat) (old : Handle) (r : Record Unit)
  deriving DecidableEq, Repr

inductive Shared.Step (s : Shared) : Event → Shared → Prop where
  | finished {t c l} (hidle : s.owed t = none) (h : Call.attempt s.ledger c = (l, false)) :
      Step s (.finished t c) { s with ledger := l }
  | refused {t old r l} (hidle : s.owed t = none)
      (h : Call.attempt s.ledger (.result old r) = (l, true)) :
      Step s (.refused t old r) ⟨l, Function.update s.owed t (some (old, r))⟩
  | corrected {t old r} (howed : s.owed t = some (old, r)) :
      Step s (.corrected t old r)
        ⟨Call.correct s.ledger (.result old r), Function.update s.owed t none⟩

/-- Steps of any number of threads in any order, the latest first. -/
inductive Run (start : Ledger Unit) : List Event → Shared → Prop where
  | nil : Run start [] ⟨start, fun _ => none⟩
  | cons {log : List Event} {s s' : Shared} {e : Event} (earlier : Run start log s)
      (last : s.Step e s') : Run start (e :: log) s'

theorem Run.writes_of_owed {start : Ledger Unit} {log : List Event} {s : Shared}
    (run : Run start log s) {t : Nat} {old : Handle} {r : Record Unit}
    (h : s.owed t = some (old, r)) :
    r.handle ≠ Handle.null ∧
      (Call.result old r).writes = released old ++ [(r.handle, some r)] := by
  -- A correction is owed from the refusal on until the thread itself makes it.
  induction run with
  | nil => simp at h
  | @cons log s s' e earlier last ih =>
    cases last with
    | finished hidle hattempt => exact ih h
    | @refused u _ _ _ hidle hattempt =>
      by_cases hu : t = u
      · obtain ⟨rfl, rfl⟩ : _ = old ∧ _ = r := by simpa [hu] using h
        obtain ⟨hq, hw, -⟩ := Call.of_refused hattempt
        exact ⟨hq, hw⟩
      · exact ih (by simpa [Function.update_of_ne hu] using h)
    | @corrected u _ _ howed =>
      by_cases hu : t = u
      · simp [hu] at h
      · exact ih (by simpa [Function.update_of_ne hu] using h)

end ResourceTrace.Allocations
