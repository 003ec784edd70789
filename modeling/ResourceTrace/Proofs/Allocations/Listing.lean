import Mathlib.Algebra.Order.Ring.Nat
import ResourceTrace.Proofs.Allocations.Simulation

set_option autoImplicit false

namespace ResourceTrace

namespace Ledger

def blocks (l : Ledger Unit) : List (Handle × Nat) := l.records.toList.map fun e => (e.1, e.2.size)

variable {l : Ledger Unit}

theorem mem_blocks_iff (l : Ledger Unit) (p : Handle) (n : Nat) :
    (p, n) ∈ l.blocks ↔ ∃ r, l.get? p = some r ∧ r.size = n := by
  simp [blocks, get?, Keyed.get?_eq_some_iff]

theorem sum_blocks (l : Ledger Unit) : (l.blocks.map Prod.snd).sum = l.sum := by
  have hsizes (rs : List (Record Unit)) : (rs.map Record.size).sum = sizes rs := by
    induction rs with
    | nil => rfl
    | cons r rs ih => rw [List.map_cons, List.sum_cons, ih, sizes_cons]
  rw [sum, ← hsizes, Keyed.values, blocks, List.map_map, List.map_map]
  rfl

theorem blocks_insert {r : Record Unit} (h : l.get? r.handle = none) :
    (l.insert r).blocks = l.blocks ++ [(r.handle, r.size)] := by
  rw [blocks, insert, Keyed.toList_put_of_get?_eq_none h, List.map_append]
  rfl

theorem blocks_drop {p : Handle} {r : Record Unit} (h : l.get? p = some r) :
    l.blocks.Perm ((p, r.size) :: (l.drop p r).blocks) :=
  (Keyed.perm_cons_erase h).map _

structure Lists (l : Ledger Unit) (bs : List (Handle × Nat)) : Prop where
  conserved : l.Conserved
  perm : l.blocks.Perm bs

namespace Lists

variable {bs rest : List (Handle × Nat)} {p : Handle} {n : Nat}

theorem empty : Lists {} [] := ⟨conserved_empty, .refl _⟩

theorem mem_iff (h : l.Lists bs) (p : Handle) (n : Nat) :
    (∃ r, l.get? p = some r ∧ r.size = n) ↔ (p, n) ∈ bs := by
  rw [← h.perm.mem_iff, mem_blocks_iff]

theorem nodup (h : l.Lists bs) : (bs.map Prod.fst).Nodup := by
  rw [← (h.perm.map Prod.fst).nodup_iff, blocks, List.map_map]
  exact l.records.nodup

theorem total_eq (h : l.Lists bs) : l.total = (bs.map Prod.snd).sum := by
  rw [h.conserved.total_eq, ← sum_blocks]
  exact (h.perm.map Prod.snd).sum_nat

theorem get?_eq_none (h : l.Lists bs) (hp : p ∉ bs.map Prod.fst) : l.get? p = none := by
  refine Option.eq_none_iff_forall_ne_some.mpr fun r hr => hp ?_
  exact List.mem_map.mpr ⟨(p, r.size), (h.mem_iff p r.size).mp ⟨r, hr, rfl⟩, rfl⟩

theorem insert (h : l.Lists bs) {r : Record Unit} (hnew : l.get? r.handle = none) :
    (l.insert r).Lists (bs ++ [(r.handle, r.size)]) where
  conserved := h.conserved.insert hnew
  perm := by
    rw [blocks_insert hnew]
    exact h.perm.append_right _

theorem drop (h : l.Lists ((p, n) :: rest)) :
    ∃ r, l.get? p = some r ∧ (l.drop p r).Lists rest := by
  obtain ⟨r, hr, hsize⟩ := (h.mem_iff p n).mpr List.mem_cons_self
  have hperm := (blocks_drop hr).symm.trans h.perm
  rw [hsize] at hperm
  exact ⟨r, hr, h.conserved.drop hr, hperm.cons_inv⟩

theorem release (h : l.Lists (rest ++ [(p, n)])) (hp : p ≠ Handle.null) : (l.release p).Lists rest := by
  have hfirst : l.Lists ((p, n) :: rest) := ⟨h.conserved, h.perm.trans List.perm_append_comm⟩
  obtain ⟨r, hr, hrest⟩ := hfirst.drop
  rwa [release_of_present hp hr]

end Lists

end Ledger

namespace Allocations

variable {l : Ledger Unit} {bs : List (Handle × Nat)} {p q : Handle} {m n : Nat} {stack : Stack}
  {now : Moment}

theorem settle_allocated (h : l.Lists bs) (hq : q ≠ Handle.null) (hnew : q ∉ bs.map Prod.fst) :
    ∃ l', settle l [sizeValue n] q stack now = (l', []) ∧ l'.Lists (bs ++ [(q, n)]) := by
  have hfree := h.get?_eq_none hnew
  rw [settle_sized]
  exact ⟨_, allocate_of_free hq hfree, h.insert (r := ⟨q, n, now, stack, ()⟩) hfree⟩

theorem settle_moved (h : l.Lists (bs ++ [(p, m)])) (hp : p ≠ Handle.null) (hq : q ≠ Handle.null)
    (hnew : q ∉ bs.map Prod.fst) (hn : 0 < n) :
    ∃ l', settle l [sizeValue n, .ref p.address] q stack now = (l', []) ∧
      l'.Lists (bs ++ [(q, n)]) := by
  have hreleased := h.release hp
  have hfree := hreleased.get?_eq_none hnew
  rw [settle_moving, if_neg hp, if_pos hn]
  exact ⟨_, reallocate_of_free hq hn hfree, hreleased.insert (r := ⟨q, n, now, stack, ()⟩) hfree⟩

theorem free_listed (h : l.Lists ((p, n) :: bs)) (hp : p ≠ Handle.null) :
    ∃ l', free l p = (l', []) ∧ l'.Lists bs := by
  obtain ⟨r, hr, hrest⟩ := h.drop
  exact ⟨_, free_of_present hp hr, hrest⟩

end Allocations

namespace Agent

/-- The agent has put out `o`, its ledger holds the listed blocks, and an event of the thread is
under way with these values. -/
structure Lists (a : Agent) (o : Output) (thread : Nat) (event : Buffer)
    (bs : List (Handle × Nat)) : Prop where
  logger : Logger.allocations < a.table.capacity
  events : a.staging.buffer (a.allocationSite thread) = event
  ledger : a.allocations.ledger.Lists bs
  output : a.output = o

namespace Lists

variable {a b : Agent} {o : Output} {t : Nat} {event : Buffer} {bs bs' : List (Handle × Nat)}

theorem stage (h : a.Lists o t event bs) {position : Nat} (hp : position < 64) (v : Value) :
    (a.stage allocationProbe t Logger.allocations position v).Lists o t (event.write position v)
      bs := by
  rw [stage_allocation h.logger allocationProbe t hp, h.events]
  exact ⟨h.logger, Staging.buffer_setBuffer_self _ _ _, h.ledger, h.output⟩

theorem close (h : a.Lists o t event bs) {q : Handle}
    (heffect : ∀ stack now, ∃ l, Allocations.settle a.allocations.ledger event q stack now = (l, []) ∧
      l.Lists bs') : (a.closeAllocation t q).Lists o t [] bs' := by
  obtain ⟨l, hl, hlists⟩ := heffect a.stack a.now
  rw [← h.events] at hl
  simp only [closeAllocation, close?_allocation h.logger, hl, setAllocationLedger, warnAll,
    List.foldl_nil]
  exact ⟨h.logger, Staging.buffer_setBuffer_self _ _ _, hlists, h.output⟩

theorem allocate (h : a.Lists o t [] bs) {q : Handle} (n : Nat) (hq : q ≠ Handle.null)
    (hnew : q ∉ bs.map Prod.fst) :
    ((a.stageSize t n).closeAllocation t q).Lists o t [] (bs ++ [(q, n)]) := by
  have hsized := h.stage (by decide : Allocations.sizePosition < 64) (Allocations.sizeValue n)
  exact hsized.close fun _ _ => Allocations.settle_allocated hsized.ledger hq hnew

theorem reallocate {p q : Handle} {m n : Nat} (h : a.Lists o t [] (bs ++ [(p, m)]))
    (hp : p ≠ Handle.null) (hq : q ≠ Handle.null) (hnew : q ∉ bs.map Prod.fst) (hn : 0 < n) :
    (((a.stageSize t n).stagePointer t p).closeAllocation t q).Lists o t [] (bs ++ [(q, n)]) := by
  have hsized := h.stage (by decide : Allocations.sizePosition < 64) (Allocations.sizeValue n)
  have hmoving := hsized.stage (by decide : Allocations.oldPosition < 64) (.ref p.address)
  exact hmoving.close fun _ _ => Allocations.settle_moved hmoving.ledger hp hq hnew hn

theorem free {p : Handle} {n : Nat} (h : a.Lists o t event ((p, n) :: bs)) (hp : p ≠ Handle.null) :
    (a.free p).Lists o t event bs := by
  obtain ⟨l, hl, hlists⟩ := Allocations.free_listed h.ledger hp
  simp only [Agent.free, hl, setAllocationLedger, warnAll, List.foldl_nil]
  exact ⟨h.logger, h.events, hlists, h.output⟩

end Lists

end Agent

end ResourceTrace
