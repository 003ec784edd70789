import Mathlib.Algebra.BigOperators.Group.Finset.Basic
import ResourceTrace.Probe.Allocations
import ResourceTrace.Proofs.Ledger.Conservation

set_option autoImplicit false

namespace ResourceTrace

/-- Finitely many live pointers, none of them null, with sizes that fit 64 bits together. -/
structure Heap where
  live : Finset Handle
  size : Handle → Nat
  null_notMem : Handle.null ∉ live
  fits : ∑ p ∈ live, size p ≤ Numeral.maxUnsigned64

namespace Heap

def empty : Heap := ⟨∅, fun _ => 0, by simp, by simp⟩

def total (h : Heap) : Nat := ∑ p ∈ h.live, h.size p

def block? (h : Heap) (p : Handle) : Option Nat := if p ∈ h.live then some (h.size p) else none

inductive Malloc (h : Heap) (n : Nat) : Handle → Heap → Prop where
  | failed : Malloc h n Handle.null h
  | placed {q : Handle} {h' : Heap} (hq : q ≠ Handle.null) (hfree : q ∉ h.live)
      (heq : h'.block? = Function.update h.block? q (some n)) : Malloc h n q h'

/-- A block moves in place or to a pointer that is not live. What is moved has a size: a live
block is released by the size zero, and from any other pointer there is nothing to move. -/
inductive Realloc (h : Heap) (p : Handle) (n : Nat) : Handle → Heap → Prop where
  | fresh {q : Handle} {h' : Heap} (hp : p = Handle.null) (hm : h.Malloc n q h') :
      Realloc h p n q h'
  | released {h' : Heap} (hp : p ∈ h.live) (hn : n = 0)
      (heq : h'.block? = Function.update h.block? p none) : Realloc h p n Handle.null h'
  | failed (hp : p ≠ Handle.null) (hn : ¬(n = 0 ∧ p ∈ h.live)) : Realloc h p n Handle.null h
  | moved {q : Handle} {h' : Heap} (hp : p ≠ Handle.null) (hn : 0 < n) (hq : q ≠ Handle.null)
      (hfree : q = p ∨ q ∉ h.live)
      (heq : h'.block? = Function.update (Function.update h.block? p none) q (some n)) :
      Realloc h p n q h'

inductive Free (h : Heap) (p : Handle) : Heap → Prop where
  | nothing (hp : p = Handle.null) : Free h p h
  | released {h' : Heap} (hp : p ∈ h.live)
      (heq : h'.block? = Function.update h.block? p none) : Free h p h'

variable {h : Heap}

@[simp] theorem block?_empty (p : Handle) : empty.block? p = none := by simp [block?, empty]

theorem block?_eq_none {p : Handle} : h.block? p = none ↔ p ∉ h.live := by simp [block?]

theorem block?_of_live {p : Handle} (hp : p ∈ h.live) : h.block? p = some (h.size p) := by
  simp [block?, hp]

theorem ne_null_of_live {p : Handle} (hp : p ∈ h.live) : p ≠ Handle.null := by
  rintro rfl
  exact h.null_notMem hp

end Heap

namespace Ledger

structure Blocks (l : Ledger Unit) (f : Handle → Option Nat) : Prop where
  conserved : l.Conserved
  size_eq : ∀ p, (l.get? p).map Record.size = f p

theorem sizes_eq_sum {m : List (Handle × Record Unit)} {f : Handle → Nat}
    (hm : (m.map Prod.fst).Nodup) (hf : ∀ e ∈ m, e.2.size = f e.1) :
    sizes (m.map Prod.snd) = ∑ p ∈ (m.map Prod.fst).toFinset, f p := by
  induction m with
  | nil => rfl
  | cons e m ih =>
    rw [List.map_cons, List.nodup_cons] at hm
    have hrest := ih hm.2 fun d hd => hf d (List.mem_cons_of_mem e hd)
    have hnew : e.1 ∉ (m.map Prod.fst).toFinset := by
      rw [List.mem_toFinset]
      exact hm.1
    rw [List.map_cons, List.map_cons, sizes_cons, List.toFinset_cons, Finset.sum_insert hnew,
      hrest, hf e List.mem_cons_self]

namespace Blocks

variable {l : Ledger Unit} {f : Handle → Option Nat}

theorem get?_eq_none (hl : l.Blocks f) {p : Handle} (hp : f p = none) : l.get? p = none := by
  rw [← hl.size_eq p] at hp
  exact Option.map_eq_none_iff.mp hp

theorem get?_eq_some (hl : l.Blocks f) {p : Handle} {n : Nat} (hp : f p = some n) :
    ∃ r, l.get? p = some r ∧ r.size = n := by
  rw [← hl.size_eq p] at hp
  exact Option.map_eq_some_iff.mp hp

theorem insert (hl : l.Blocks f) {r : Record Unit} (hr : f r.handle = none) :
    (l.insert r).Blocks (Function.update f r.handle (some r.size)) := by
  refine ⟨hl.conserved.insert (hl.get?_eq_none hr), fun p => ?_⟩
  rw [get?_insert, Function.update_apply]
  split
  · rfl
  · exact hl.size_eq p

theorem drop (hl : l.Blocks f) {p : Handle} {r : Record Unit} (hr : l.get? p = some r) :
    (l.drop p r).Blocks (Function.update f p none) := by
  refine ⟨hl.conserved.drop hr, fun q => ?_⟩
  rw [get?_drop, Function.update_apply]
  split
  · rfl
  · exact hl.size_eq q

theorem release (hl : l.Blocks f) {p : Handle} (hp : p ≠ Handle.null) :
    (l.release p).Blocks (Function.update f p none) := by
  refine ⟨hl.conserved.release p, fun q => ?_⟩
  rw [get?_release, Function.update_apply]
  by_cases hq : q = p
  · simp [hq, hp]
  · simp [hq, hl.size_eq q]

theorem congr (hl : l.Blocks f) {g : Handle → Option Nat} (hg : g = f) : l.Blocks g := by
  rwa [hg]

theorem mem_keys_iff {h : Heap} (hl : l.Blocks h.block?) (p : Handle) :
    p ∈ l.records.toList.map Prod.fst ↔ p ∈ h.live := by
  constructor
  · intro hp
    obtain ⟨e, he, rfl⟩ := List.mem_map.mp hp
    have hr : l.get? e.1 = some e.2 := (l.records.get?_eq_some_iff e.1 e.2).mpr he
    by_contra hdead
    have hnone := hl.get?_eq_none (Heap.block?_eq_none.mpr hdead)
    simp [hr] at hnone
  · intro hp
    obtain ⟨r, hr, _⟩ := hl.get?_eq_some (Heap.block?_of_live hp)
    have he := (l.records.get?_eq_some_iff p r).mp hr
    exact List.mem_map.mpr ⟨(p, r), he, rfl⟩

theorem size_of_mem {h : Heap} (hl : l.Blocks h.block?) {e : Handle × Record Unit}
    (he : e ∈ l.records.toList) : e.2.size = h.size e.1 := by
  have hr : l.get? e.1 = some e.2 := (l.records.get?_eq_some_iff e.1 e.2).mpr he
  have hlive := (hl.mem_keys_iff e.1).mp (List.mem_map.mpr ⟨e, he, rfl⟩)
  have hsize := hl.size_eq e.1
  rw [hr, Heap.block?_of_live hlive] at hsize
  exact Option.some.inj hsize

theorem total_eq {h : Heap} (hl : l.Blocks h.block?) : l.total = h.total := by
  have hlive : (l.records.toList.map Prod.fst).toFinset = h.live := by
    ext p
    rw [List.mem_toFinset, hl.mem_keys_iff]
  rw [hl.conserved.total_eq, Heap.total, ← hlive]
  exact sizes_eq_sum l.records.nodup fun e he => hl.size_of_mem he

end Blocks

end Ledger

namespace Allocations

variable {l : Ledger Unit} {h h' : Heap} {p q : Handle} {n : Nat} {stack : Stack} {now : Moment}

theorem allocate_of_free {r : Record Unit} (hq : r.handle ≠ Handle.null)
    (hn : l.get? r.handle = none) : allocate l r = (l.insert r, []) := by
  simp [allocate, hq, Ledger.add_of_free hn]

theorem reallocate_of_free {r : Record Unit} (hq : r.handle ≠ Handle.null) (hs : 0 < r.size)
    (hn : (l.release p).get? r.handle = none) :
    reallocate l p r = ((l.release p).insert r, []) := by
  simp [reallocate, Ledger.reallocate, hq, Nat.ne_of_gt hs, Ledger.add_of_free hn]

theorem free_of_present {r : Record Unit} (hp : p ≠ Handle.null) (hr : l.get? p = some r) :
    free l p = (l.drop p r, []) := by
  simp [free, hp, Ledger.remove_of_present hr]

theorem allocate_blocks (hl : l.Blocks h.block?) (hm : h.Malloc n q h') :
    ∃ l', allocate l ⟨q, n, now, stack, ()⟩ = (l', []) ∧ l'.Blocks h'.block? := by
  cases hm with
  | failed => exact ⟨l, by simp [allocate], hl⟩
  | placed hq hfree heq =>
    have hnone := Heap.block?_eq_none.mpr hfree
    let r : Record Unit := ⟨q, n, now, stack, ()⟩
    exact ⟨l.insert r, allocate_of_free hq (hl.get?_eq_none hnone),
      (hl.insert (r := r) hnone).congr heq⟩

theorem reallocate_blocks (hl : l.Blocks h.block?) (hp : p ≠ Handle.null)
    (hr : h.Realloc p n q h') :
    ∃ l', reallocate l p ⟨q, n, now, stack, ()⟩ = (l', []) ∧ l'.Blocks h'.block? := by
  cases hr with
  | fresh hnull _ => exact absurd hnull hp
  | released hlive hn heq =>
    refine ⟨l.release p, ?_, (hl.release hp).congr heq⟩
    simp [reallocate, Ledger.reallocate, hn]
  | failed _ hn =>
    by_cases hz : n = 0
    · -- Releasing a pointer that is not live changes nothing.
      have hdead : p ∉ h.live := fun hlive => hn ⟨hz, hlive⟩
      have hnone := hl.get?_eq_none (Heap.block?_eq_none.mpr hdead)
      refine ⟨l, ?_, hl⟩
      simp [reallocate, Ledger.reallocate, hz, Ledger.release_of_absent hnone]
    · exact ⟨l, by simp [reallocate, Nat.pos_of_ne_zero hz], hl⟩
  | moved _ hn hq hfree heq =>
    let r : Record Unit := ⟨q, n, now, stack, ()⟩
    have hreleased := hl.release hp
    have hnone : Function.update h.block? p none q = none := by
      rw [Function.update_apply]
      split
      · rfl
      · next hne => exact Heap.block?_eq_none.mpr (hfree.resolve_left hne)
    exact ⟨(l.release p).insert r, reallocate_of_free hq hn (hreleased.get?_eq_none hnone),
      (hreleased.insert (r := r) hnone).congr heq⟩

theorem free_blocks (hl : l.Blocks h.block?) (hf : h.Free p h') :
    ∃ l', free l p = (l', []) ∧ l'.Blocks h'.block? := by
  cases hf with
  | nothing hp => exact ⟨l, by simp [free, hp], hl⟩
  | released hlive heq =>
    have hp := Heap.ne_null_of_live hlive
    obtain ⟨r, hr, _⟩ := hl.get?_eq_some (Heap.block?_of_live hlive)
    exact ⟨l.drop p r, free_of_present hp hr, (hl.drop hr).congr heq⟩

@[simp] theorem natural?_sizeValue (size : Nat) : (sizeValue size).natural? = some size := by
  by_cases hs : (size : Int) ≤ Numeral.maxInt64
  · simp only [sizeValue, hs, if_true]
    rfl
  · simp only [sizeValue, hs, if_false]
    rfl

theorem settle_sized (l : Ledger Unit) (n : Nat) (q : Handle) (stack : Stack) (now : Moment) :
    settle l [sizeValue n] q stack now = allocate l ⟨q, n, now, stack, ()⟩ := by
  have hsize : stagedSize? [sizeValue n] = some n := by
    simp [stagedSize?, sizePosition, Buffer.at?]
  have hold : stagedOld [sizeValue n] = Handle.null := rfl
  simp [settle, hsize, hold]

theorem settle_moving (l : Ledger Unit) (n : Nat) (p q : Handle) (stack : Stack) (now : Moment) :
    settle l [sizeValue n, .ref p.address] q stack now =
      if p = Handle.null then allocate l ⟨q, n, now, stack, ()⟩
      else reallocate l p ⟨q, n, now, if 0 < n then stack else [], ()⟩ := by
  have hsize : stagedSize? [sizeValue n, .ref p.address] = some n := by
    simp [stagedSize?, sizePosition, Buffer.at?]
  have hold : stagedOld [sizeValue n, .ref p.address] = p := rfl
  simp [settle, hsize, hold]

theorem settle_moving_blocks (hl : l.Blocks h.block?) (hr : h.Realloc p n q h') :
    ∃ l', settle l [sizeValue n, .ref p.address] q stack now = (l', []) ∧
      l'.Blocks h'.block? := by
  rw [settle_moving]
  split
  · next hp =>
    have hm : h.Malloc n q h' := by
      cases hr with
      | fresh _ hm => exact hm
      | released hlive _ _ => exact absurd hp (Heap.ne_null_of_live hlive)
      | failed hne _ => exact absurd hp hne
      | moved hne _ _ _ _ => exact absurd hp hne
    exact allocate_blocks hl hm
  · next hp => exact reallocate_blocks hl hp hr

end Allocations

end ResourceTrace
