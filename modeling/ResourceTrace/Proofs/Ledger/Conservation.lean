import Mathlib.Data.List.Infix
import ResourceTrace.Proofs.Ledger.Operation

set_option autoImplicit false

namespace ResourceTrace.Ledger

variable {δ : Type}

structure Conserved (l : Ledger δ) : Prop where
  total_eq : l.total = l.sum
  handle_eq : ∀ h r, l.get? h = some r → r.handle = h

theorem conserved_empty : Conserved ({} : Ledger δ) :=
  ⟨rfl, fun h r hr => by simp [get?] at hr⟩

namespace Conserved

variable {l : Ledger δ}

theorem size_le (h : l.Conserved) {k : Handle} {r : Record δ} (hr : l.get? k = some r) :
    r.size ≤ l.total := by
  rw [h.total_eq]
  exact size_le_sum hr

theorem handle_eq_of_mem (h : l.Conserved) {p : Handle × Record δ} (hp : p ∈ l.records.toList) :
    p.2.handle = p.1 :=
  h.handle_eq p.1 p.2 ((l.records.get?_eq_some_iff p.1 p.2).mpr hp)

theorem nodup_handles (h : l.Conserved) : (l.records.values.map Record.handle).Nodup := by
  have hk : l.records.values.map Record.handle = l.records.toList.map Prod.fst := by
    rw [Keyed.values, List.map_map]
    exact List.map_congr_left fun p hp => h.handle_eq_of_mem hp
  rw [hk]
  exact l.records.nodup

theorem total_eq_zero (hl : l.Conserved)
    (h : ∀ k r, l.get? k = some r → r.size = 0) : l.total = 0 := by
  rw [hl.total_eq]
  refine sizes_eq_zero fun r hr => ?_
  obtain ⟨k, hk⟩ := (l.records.mem_values_iff r).mp hr
  exact h k r hk

theorem retain_count (hl : l.Conserved) (keep : Handle → Bool) :
    (l.retain fun r => keep r.handle).1 = (l.records.keys.filter fun h => !keep h).length := by
  have hkeys : (l.records.toList.filter fun p => keep p.2.handle) =
      l.records.toList.filter fun p => keep p.1 :=
    List.filter_congr fun p hp => by rw [hl.handle_eq_of_mem hp]
  have hcount : (l.retain fun r => keep r.handle).1 =
      l.records.toList.length - (l.records.toList.filter fun p => keep p.2.handle).length := rfl
  have hall := l.records.toList.length_eq_length_filter_add fun p => keep p.1
  rw [hcount, hkeys, Keyed.keys, List.filter_map, List.length_map, Function.comp_def]
  omega

theorem insert (h : l.Conserved) {r : Record δ} (hn : l.get? r.handle = none) :
    (l.insert r).Conserved := by
  constructor
  · rw [sum_insert hn, ← h.total_eq]
    rfl
  · intro k s hs
    rw [get?_insert] at hs
    split at hs
    · next hk => rw [← Option.some.inj hs, hk]
    · exact h.handle_eq k s hs

theorem drop (h : l.Conserved) {k : Handle} {r : Record δ} (hr : l.get? k = some r) :
    (l.drop k r).Conserved := by
  have hs := sum_drop hr
  have ht : (l.drop k r).total = l.total - r.size := rfl
  constructor
  · rw [ht, h.total_eq]
    omega
  · intro j s hj
    rw [get?_drop] at hj
    split at hj
    · simp at hj
    · exact h.handle_eq j s hj

theorem release (h : l.Conserved) (old : Handle) : (l.release old).Conserved := by
  by_cases ho : old = Handle.null
  · rwa [ho, release_null]
  · cases hr : l.get? old with
    | none => rwa [release_of_absent hr]
    | some r =>
      rw [release_of_present ho hr]
      exact h.drop hr

theorem replace (h : l.Conserved) (r : Record δ) : (l.replace r).2.Conserved := by
  cases hr : l.get? r.handle with
  | none =>
    rw [replace_of_free hr]
    exact h.insert hr
  | some s =>
    rw [replace_of_present hr]
    exact (h.drop hr).insert (by simp [get?_drop])

theorem retain (h : l.Conserved) (keep : Record δ → Bool) : (l.retain keep).2.Conserved := by
  have hs := l.sum_retain keep
  have ht : (l.retain keep).2.total =
      l.total - sizes (l.records.values.filter fun r => !keep r) := rfl
  constructor
  · rw [ht, h.total_eq]
    omega
  · intro k r hr
    rw [get?_retain, Option.filter_eq_some_iff] at hr
    exact h.handle_eq k r hr.1

theorem add (h : l.Conserved) (r : Record δ) : (l.apply (.add r)).Conserved := by
  cases hr : l.get? r.handle with
  | none => simpa only [Ledger.apply, add_of_free hr] using h.insert hr
  | some s => simpa only [Ledger.apply, add_of_present hr] using h

theorem apply (h : l.Conserved) (op : Operation δ) : (l.apply op).Conserved := by
  cases op with
  | add r => exact h.add r
  | remove k =>
    cases hr : l.get? k with
    | none => simpa only [Ledger.apply, remove_of_absent hr] using h
    | some r => simpa only [Ledger.apply, remove_of_present hr] using h.drop hr
  | reallocate old r =>
    have hreleased := h.release old
    simp only [Ledger.apply, reallocate_eq_apply]
    split
    · exact hreleased
    · exact hreleased.add r
  | replace r => exact h.replace r
  | retain keep => exact h.retain keep

theorem run (h : l.Conserved) (ops : List (Operation δ)) : (l.run ops).Conserved := by
  induction ops generalizing l with
  | nil => exact h
  | cons op ops ih => exact ih (h.apply op)

end Conserved

namespace Word

def insert (l : Ledger δ) (r : Record δ) : Option (Ledger δ) :=
  if l.total + r.size ≤ Numeral.maxUnsigned64 then some (l.insert r) else none

def drop (l : Ledger δ) (h : Handle) (r : Record δ) : Option (Ledger δ) :=
  if r.size ≤ l.total then some (l.drop h r) else none

def add (l : Ledger δ) (r : Record δ) : Option (Ledger δ) :=
  if l.contains r.handle then some l else insert l r

def remove (l : Ledger δ) (h : Handle) : Option (Ledger δ) :=
  match l.get? h with
  | none => some l
  | some r => drop l h r

def release (l : Ledger δ) (old : Handle) : Option (Ledger δ) :=
  if old.isNull then some l else remove l old

def reallocate (l : Ledger δ) (old : Handle) (r : Record δ) : Option (Ledger δ) := do
  let released ← release l old
  if r.size = 0 then some released else add released r

def replace (l : Ledger δ) (r : Record δ) : Option (Ledger δ) := do
  let without ← remove l r.handle
  insert without r

def retain (l : Ledger δ) (keep : Record δ → Bool) : Option (Ledger δ) :=
  if sizes (l.records.values.filter fun r => !keep r) ≤ l.total then some (l.retain keep).2
  else none

def apply (l : Ledger δ) : Operation δ → Option (Ledger δ)
  | .add r => add l r
  | .remove h => remove l h
  | .reallocate old r => reallocate l old r
  | .replace r => replace l r
  | .retain keep => retain l keep

section

variable {l : Ledger δ}

theorem insert_eq (h : l.Conserved) {r : Record δ} (hn : l.get? r.handle = none)
    (fits : (l.insert r).sum ≤ Numeral.maxUnsigned64) : insert l r = some (l.insert r) := by
  rw [sum_insert hn, ← h.total_eq] at fits
  simp [insert, fits]

theorem drop_eq (h : l.Conserved) {k : Handle} {r : Record δ} (hr : l.get? k = some r) :
    drop l k r = some (l.drop k r) := by
  simp [drop, h.size_le hr]

theorem add_eq (h : l.Conserved) {r : Record δ}
    (fits : (l.apply (.add r)).sum ≤ Numeral.maxUnsigned64) :
    add l r = some (l.apply (.add r)) := by
  cases hr : l.get? r.handle with
  | none =>
    simp only [Ledger.apply, add_of_free hr] at fits ⊢
    simpa [add, contains_eq, hr] using insert_eq h hr fits
  | some s => simp [add, contains_eq, hr, Ledger.apply, add_of_present hr]

theorem remove_eq (h : l.Conserved) (k : Handle) : remove l k = some (l.apply (.remove k)) := by
  cases hr : l.get? k with
  | none => simp [remove, hr, Ledger.apply, remove_of_absent hr]
  | some r => simp [remove, hr, Ledger.apply, remove_of_present hr, drop_eq h hr]

theorem release_eq (h : l.Conserved) (old : Handle) : release l old = some (l.release old) := by
  rw [release, release_eq_apply, remove_eq h]
  split <;> rfl

theorem reallocate_eq (h : l.Conserved) {old : Handle} {r : Record δ}
    (fits : (l.apply (.reallocate old r)).sum ≤ Numeral.maxUnsigned64) :
    reallocate l old r = some (l.apply (.reallocate old r)) := by
  have hr : l.apply (.reallocate old r) =
      if r.size = 0 then l.release old else (l.release old).apply (.add r) :=
    reallocate_eq_apply l old r
  rw [hr] at fits ⊢
  by_cases hz : r.size = 0
  · simp [reallocate, release_eq h, hz]
  · rw [if_neg hz] at fits
    simp [reallocate, release_eq h, hz, add_eq (h.release old) fits]

theorem replace_eq (h : l.Conserved) {r : Record δ}
    (fits : (l.replace r).2.sum ≤ Numeral.maxUnsigned64) :
    replace l r = some (l.replace r).2 := by
  have hn : (l.apply (.remove r.handle)).get? r.handle = none := by
    cases hr : l.get? r.handle with
    | none => simpa [Ledger.apply, remove_of_absent hr] using hr
    | some s => simp [Ledger.apply, remove_of_present hr, get?_drop]
  rw [replace_eq_apply] at fits ⊢
  simpa [replace, remove_eq h] using insert_eq (h.apply (.remove r.handle)) hn fits

theorem retain_eq (h : l.Conserved) (keep : Record δ → Bool) :
    retain l keep = some (l.retain keep).2 := by
  have hs := l.sum_retain keep
  have hle : sizes (l.records.values.filter fun r => !keep r) ≤ l.total := by
    rw [h.total_eq]
    omega
  simp [retain, hle]

theorem apply_eq (h : l.Conserved) {op : Operation δ}
    (fits : (l.apply op).sum ≤ Numeral.maxUnsigned64) : apply l op = some (l.apply op) := by
  cases op with
  | add r => exact add_eq h fits
  | remove k => exact remove_eq h k
  | reallocate old r => exact reallocate_eq h fits
  | replace r => exact replace_eq h fits
  | retain keep => exact retain_eq h keep

end

end Word

inductive Call (δ : Type) where
  | operate (op : Operation δ)
  | snapshot

structure Shared (δ : Type) where
  live : Ledger δ := {}
  snapshots : List (Ledger δ) := []

namespace Shared

def ledgers (s : Shared δ) : List (Ledger δ) := s.live :: s.snapshots

def perform (s : Shared δ) : Call δ → Shared δ
  | .operate op => { s with live := s.live.apply op }
  | .snapshot => { s with snapshots := s.live :: s.snapshots }

def run (s : Shared δ) (calls : List (Call δ)) : Shared δ := calls.foldl perform s

def performInWord (s : Shared δ) : Call δ → Option (Shared δ)
  | .operate op => (Word.apply s.live op).map fun live => { s with live }
  | .snapshot => some { s with snapshots := s.live :: s.snapshots }

def runInWord (s : Shared δ) (calls : List (Call δ)) : Option (Shared δ) :=
  calls.foldlM performInWord s

theorem conserved_perform {s : Shared δ} (hs : ∀ l ∈ s.ledgers, l.Conserved) (c : Call δ) :
    ∀ l ∈ (s.perform c).ledgers, l.Conserved := by
  have hlive : s.live.Conserved := hs s.live (by simp [ledgers])
  intro l hl
  cases c with
  | operate op =>
    simp only [ledgers, perform, List.mem_cons] at hl
    rcases hl with rfl | hl
    · exact hlive.apply op
    · exact hs l (by simp [ledgers, hl])
  | snapshot =>
    simp only [ledgers, perform, List.mem_cons] at hl
    rcases hl with rfl | rfl | hl
    · exact hlive
    · exact hlive
    · exact hs l (by simp [ledgers, hl])

theorem conserved_run {s : Shared δ} (hs : ∀ l ∈ s.ledgers, l.Conserved) (calls : List (Call δ)) :
    ∀ l ∈ (s.run calls).ledgers, l.Conserved := by
  induction calls generalizing s with
  | nil => exact hs
  | cons c calls ih => exact ih (conserved_perform hs c)

theorem performInWord_eq {s : Shared δ} (hs : s.live.Conserved) {c : Call δ}
    (fits : (s.perform c).live.sum ≤ Numeral.maxUnsigned64) :
    s.performInWord c = some (s.perform c) := by
  cases c with
  | operate op => simp [performInWord, perform, Word.apply_eq hs fits]
  | snapshot => rfl

theorem runInWord_eq {s : Shared δ} (hs : ∀ l ∈ s.ledgers, l.Conserved) {calls : List (Call δ)}
    (fits : ∀ earlier, earlier <+: calls → (s.run earlier).live.sum ≤ Numeral.maxUnsigned64) :
    s.runInWord calls = some (s.run calls) := by
  induction calls generalizing s with
  | nil => rfl
  | cons c calls ih =>
    have hfirst := fits [c] (by simp)
    have hrest := ih (conserved_perform hs c) fun earlier he =>
      fits (c :: earlier) ((List.prefix_cons_inj c).mpr he)
    simp only [runInWord, run, List.foldlM_cons, List.foldl_cons] at hrest ⊢
    rw [performInWord_eq (hs s.live (by simp [ledgers])) hfirst]
    exact hrest

/-- Operations and copies in any order, failing operations included. At every moment the ledger
and all its copies have the sum of their sizes for a total and each record under its own handle,
and the operations came out the same as on a word of 64 bits. -/
theorem conserved_throughout (calls : List (Call δ))
    (fits : ∀ earlier, earlier <+: calls →
      (run {} earlier).live.sum ≤ Numeral.maxUnsigned64) :
    ∀ earlier, earlier <+: calls →
      runInWord {} earlier = some (run {} earlier) ∧
      ∀ l ∈ (run {} earlier).ledgers,
        l.total = l.sum ∧ (∀ h r, l.get? h = some r → r.handle = h) ∧
          (l.records.values.map Record.handle).Nodup := by
  have hempty : ∀ l ∈ ledgers ({} : Shared δ), l.Conserved := by
    intro l hl
    rw [List.mem_singleton.mp hl]
    exact conserved_empty
  intro earlier he
  constructor
  · exact runInWord_eq hempty fun first hf => fits first (hf.trans he)
  · intro l hl
    have hc := conserved_run hempty earlier l hl
    exact ⟨hc.total_eq, hc.handle_eq, hc.nodup_handles⟩

/-- Two records that fill the word to its last byte, and then all operations and both errors. -/
def fullWordCalls : List (Call Unit) :=
  let record (address size : Nat) : Record Unit := ⟨⟨address⟩, size, ⟨0⟩, [], ()⟩
  [.operate (.add (record 0x10 0x8000000000000000)),
   .operate (.add (record 0x20 0x7fffffffffffffff)),
   .operate (.add (record 0x20 7)), .snapshot, .operate (.remove ⟨0x99⟩),
   .operate (.reallocate ⟨0x10⟩ (record 0x20 64)),
   .operate (.replace (record 0x20 0xffffffffffffffff)), .snapshot,
   .operate (.reallocate ⟨0x20⟩ (record 0x30 0)), .operate (.add (record 0 0)),
   .operate (.reallocate Handle.null (record 0x40 5)), .operate (.retain fun r => r.size != 5)]

theorem conserved_throughout_full_word :
    (∀ earlier, earlier <+: fullWordCalls →
      (run {} earlier).live.sum ≤ Numeral.maxUnsigned64) ∧
    runInWord {} fullWordCalls = some (run {} fullWordCalls) ∧
    ∀ l ∈ (run {} fullWordCalls).ledgers,
      l.total = l.sum ∧ (∀ h r, l.get? h = some r → r.handle = h) ∧
        (l.records.values.map Record.handle).Nodup := by
  have fits : ∀ earlier, earlier <+: fullWordCalls →
      (run {} earlier).live.sum ≤ Numeral.maxUnsigned64 := by
    intro earlier he
    have hall : ∀ first ∈ fullWordCalls.inits,
        (run {} first).live.sum ≤ Numeral.maxUnsigned64 := by decide
    exact hall earlier ((List.mem_inits _ _).mpr he)
  exact ⟨fits, conserved_throughout fullWordCalls fits fullWordCalls (List.prefix_refl _)⟩

end Shared

end ResourceTrace.Ledger
