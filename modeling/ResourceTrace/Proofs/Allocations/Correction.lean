import Mathlib.Data.List.Infix
import ResourceTrace.Proofs.Allocations.Simulation

/-!
Probes that no heap would send. Events may be closed without a size, sizes and pointers staged
twice, handles allocated again or freed without having been allocated. The ledger believes them
all: what is closed has the effect that its staged size and pointer stand for, and the ledger
remains one that ledger operations lead to, on a total of 64 bits too.
-/

set_option autoImplicit false

namespace ResourceTrace

/-- The size and the old pointer since the thread last closed an event, each as it was last
staged. -/
structure Staged where
  size : Option Nat := none
  old : Option Handle := none
  deriving DecidableEq, Repr

namespace Staged

def note (thread : Nat) (s : Staged) (c : ProbeCall) : Staged :=
  if c.thread = thread then
    match c.probe with
    | .size n => { s with size := some n }
    | .pointer p => { s with old := some p }
    | .result _ => {}
    | .free _ => s
  else s

def after (thread : Nat) (calls : List ProbeCall) : Staged := calls.foldl (note thread) {}

/-- The values in the buffer. A pointer without a size leaves a hole in front of it. -/
def event (s : Staged) : Buffer :=
  match s.size, s.old with
  | none, none => []
  | some n, none => [Allocations.sizeValue n]
  | none, some p => [.null, .ref p.address]
  | some n, some p => [Allocations.sizeValue n, .ref p.address]

/-- The records once the event is closed with `q`. Without a size they stay as they are; without
an old pointer, or with a null one, the event is an allocation, and otherwise it moves what is at
the old pointer or releases it for good. A record that is in the way gives way. -/
def settled (s : Staged) (records : Handle → Option (Record Unit)) (q : Handle) (stack : Stack)
    (now : Moment) : Handle → Option (Record Unit) :=
  match s.size with
  | none => records
  | some n =>
    let record : Record Unit := ⟨q, n, now, stack, ()⟩
    let old := s.old.getD Handle.null
    if old = Handle.null then
      if q = Handle.null then records else Function.update records q (some record)
    else if n = 0 then Function.update records old none
    else if q = Handle.null then records
    else Function.update (Function.update records old none) q (some record)

end Staged

def ProbeCall.settled (c : ProbeCall) (s : Staged) (records : Handle → Option (Record Unit)) :
    Handle → Option (Record Unit) :=
  match c.probe with
  | .size _ | .pointer _ => records
  | .result q => s.settled records q c.stack c.now
  | .free p => Function.update records p none

namespace Ledger

variable {δ : Type}

theorem get?_insert_eq (l : Ledger δ) (r : Record δ) :
    (l.insert r).get? = Function.update l.get? r.handle (some r) := by
  funext h
  rw [get?_insert, Function.update_apply]

theorem get?_release_eq (l : Ledger δ) {old : Handle} (ho : old ≠ Handle.null) :
    (l.release old).get? = Function.update l.get? old none := by
  funext h
  simp [get?_release, Function.update_apply, ho]

theorem get?_replace_eq (l : Ledger δ) (r : Record δ) :
    (l.replace r).2.get? = Function.update l.get? r.handle (some r) := by
  funext h
  rw [get?_replace, Function.update_apply]

theorem get?_eq_update_none {l : Ledger δ} {p : Handle} (h : l.get? p = none) :
    l.get? = Function.update l.get? p none := by
  rw [← h, Function.update_eq_self]

end Ledger

namespace Allocations

variable (l : Ledger Unit)

theorem get?_allocate (r : Record Unit) :
    (allocate l r).1.get? =
      if r.handle = Handle.null then l.get?
      else Function.update l.get? r.handle (some r) := by
  by_cases hq : r.handle = Handle.null
  · simp [allocate, hq]
  · cases hr : l.get? r.handle with
    | none => simp [allocate, hq, Ledger.add_of_free hr, Ledger.get?_insert_eq]
    | some s => simp [allocate, hq, Ledger.add_of_present hr, Ledger.get?_replace_eq]

theorem get?_reallocate {old : Handle} (ho : old ≠ Handle.null) (r : Record Unit) :
    (reallocate l old r).1.get? =
      if r.size = 0 then Function.update l.get? old none
      else if r.handle = Handle.null then l.get?
      else Function.update (Function.update l.get? old none) r.handle (some r) := by
  by_cases hz : r.size = 0
  · simp [reallocate, Ledger.reallocate, hz, Ledger.get?_release_eq l ho]
  · by_cases hq : r.handle = Handle.null
    · simp [reallocate, hz, hq, Nat.pos_of_ne_zero hz]
    · -- The old record is gone by the time at which the new one meets another.
      cases hr : (l.release old).get? r.handle with
      | none =>
        simp [reallocate, Ledger.reallocate, hz, hq, Ledger.add_of_free hr, Ledger.get?_insert_eq,
          Ledger.get?_release_eq l ho]
      | some s =>
        simp [reallocate, Ledger.reallocate, hz, hq, Ledger.add_of_present hr,
          Ledger.get?_replace_eq, Ledger.get?_release_eq l ho]

theorem get?_free {l : Ledger Unit} (hnull : l.get? Handle.null = none) (p : Handle) :
    (free l p).1.get? = Function.update l.get? p none := by
  by_cases hp : p = Handle.null
  · simpa [free, hp] using Ledger.get?_eq_update_none hnull
  · rw [← Ledger.get?_release_eq l hp]
    cases hr : l.get? p with
    | none => simp [free, hp, Ledger.remove_of_absent hr, Ledger.release_of_absent hr]
    | some r => simp [free, hp, Ledger.remove_of_present hr, Ledger.release_of_present hp hr]

theorem stagedSize?_event (s : Staged) : stagedSize? s.event = s.size := by
  obtain ⟨size, old⟩ := s
  cases size with
  | none => cases old <;> rfl
  | some n => cases old <;> simp [stagedSize?, Staged.event, Buffer.at?, sizePosition]

theorem stagedOld_event (s : Staged) : stagedOld s.event = s.old.getD Handle.null := by
  obtain ⟨size, old⟩ := s
  cases size <;> cases old <;> rfl

theorem get?_settle (s : Staged) (q : Handle) (stack : Stack) (now : Moment) :
    (settle l s.event q stack now).1.get? = s.settled l.get? q stack now := by
  rw [settle, stagedSize?_event, stagedOld_event, Staged.settled]
  cases s.size with
  | none => rfl
  | some n =>
    by_cases ho : s.old.getD Handle.null = Handle.null
    · simp [ho, get?_allocate]
    · by_cases hn : n = 0
      · simp [ho, get?_reallocate, hn]
      · simp [ho, get?_reallocate, hn, Nat.pos_of_ne_zero hn]

open Ledger (Operation)

def allocation (r : Record Unit) : List (Operation Unit) :=
  if r.handle = Handle.null then []
  else if l.contains r.handle then [.add r, .replace r]
  else [.add r]

def reallocation (old : Handle) (r : Record Unit) : List (Operation Unit) :=
  if r.handle = Handle.null ∧ 0 < r.size then []
  else match (l.reallocate old r).1 with
    | .ok _ => [.reallocate old r]
    | .error _ => [.reallocate old r, .replace r]

def settlement (event : Buffer) (q : Handle) (stack : Stack) (now : Moment) :
    List (Operation Unit) :=
  match stagedSize? event with
  | none => []
  | some n =>
    if stagedOld event = Handle.null then allocation l ⟨q, n, now, stack, ()⟩
    else reallocation l (stagedOld event) ⟨q, n, now, if 0 < n then stack else [], ()⟩

def freeing (p : Handle) : List (Operation Unit) := if p = Handle.null then [] else [.remove p]

theorem run_allocation (r : Record Unit) : l.run (allocation l r) = (allocate l r).1 := by
  by_cases hq : r.handle = Handle.null
  · simp [allocation, allocate, hq, Ledger.run]
  · cases hr : l.get? r.handle with
    | none =>
      simp [allocation, allocate, hq, Ledger.run, Ledger.apply, Ledger.contains_eq, hr,
        Ledger.add_of_free hr]
    | some s =>
      simp [allocation, allocate, hq, Ledger.run, Ledger.apply, Ledger.contains_eq, hr,
        Ledger.add_of_present hr]

theorem run_reallocation (old : Handle) (r : Record Unit) :
    l.run (reallocation l old r) = (reallocate l old r).1 := by
  by_cases hfailed : r.handle = Handle.null ∧ 0 < r.size
  · simp [reallocation, reallocate, hfailed, Ledger.run]
  · have hcond : ¬(r.handle.isNull && decide (0 < r.size)) = true := by simpa using hfailed
    rw [reallocation, if_neg hfailed, reallocate, if_neg hcond]
    cases hr : l.reallocate old r with
    | mk answer moved => cases answer <;> simp [Ledger.run, Ledger.apply, hr]

theorem run_settlement (event : Buffer) (q : Handle) (stack : Stack) (now : Moment) :
    l.run (settlement l event q stack now) = (settle l event q stack now).1 := by
  cases hs : stagedSize? event with
  | none => simp [settlement, settle, hs, Ledger.run]
  | some n =>
    by_cases ho : stagedOld event = Handle.null
    · simp [settlement, settle, hs, ho, run_allocation]
    · simp [settlement, settle, hs, ho, run_reallocation]

theorem run_freeing (p : Handle) : l.run (freeing p) = (free l p).1 := by
  by_cases hp : p = Handle.null
  · simp [freeing, free, hp, Ledger.run]
  · cases hr : l.remove p <;> simp [freeing, free, hp, Ledger.run, Ledger.apply, hr]

section

open Ledger (Word.apply)

variable {l}

theorem allocation_inWord (h : l.Conserved) {r : Record Unit}
    (fits : (allocate l r).1.sum ≤ Numeral.maxUnsigned64) :
    (allocation l r).foldlM Word.apply l = some (allocate l r).1 := by
  by_cases hq : r.handle = Handle.null
  · simp [allocation, allocate, hq]
  · cases hr : l.get? r.handle with
    | none =>
      have hadd : (allocate l r).1 = l.apply (.add r) := by
        simp [allocate, hq, Ledger.apply, Ledger.add_of_free hr]
      rw [hadd] at fits ⊢
      simp [allocation, hq, Ledger.contains_eq, hr, Ledger.Word.apply, Ledger.Word.add_eq h fits]
    | some s =>
      have hreplace : (allocate l r).1 = (l.replace r).2 := by
        simp [allocate, hq, Ledger.add_of_present hr]
      rw [hreplace] at fits ⊢
      simp [allocation, hq, Ledger.contains_eq, hr, Ledger.Word.apply, Ledger.Word.add,
        Ledger.Word.replace_eq h fits]

theorem word_reallocate_of_error (h : l.Conserved) {old : Handle} {r : Record Unit}
    {e : LedgerError} {moved : Ledger Unit} (he : l.reallocate old r = (.error e, moved)) :
    Ledger.Word.reallocate l old r = some moved := by
  by_cases hz : r.size = 0
  · simp [Ledger.reallocate, hz] at he
  · cases hr : (l.release old).get? r.handle with
    | none => simp [Ledger.reallocate, hz, Ledger.add_of_free hr] at he
    | some s =>
      have hmoved : l.release old = moved := by
        simpa [Ledger.reallocate, hz, Ledger.add_of_present hr] using congrArg Prod.snd he
      simp [Ledger.Word.reallocate, Ledger.Word.release_eq h, Ledger.Word.add, hz,
        Ledger.contains_eq, hr, ← hmoved]

theorem reallocation_inWord (h : l.Conserved) {old : Handle} {r : Record Unit}
    (fits : (reallocate l old r).1.sum ≤ Numeral.maxUnsigned64) :
    (reallocation l old r).foldlM Word.apply l = some (reallocate l old r).1 := by
  by_cases hfailed : r.handle = Handle.null ∧ 0 < r.size
  · simp [reallocation, reallocate, hfailed]
  · have hcond : ¬(r.handle.isNull && decide (0 < r.size)) = true := by simpa using hfailed
    have hmoves : (l.reallocate old r).2.Conserved := h.apply (.reallocate old r)
    rw [reallocate, if_neg hcond] at fits ⊢
    rw [reallocation, if_neg hfailed]
    cases hr : l.reallocate old r with
    | mk answer moved =>
      rw [hr] at fits hmoves
      cases answer with
      | ok _ =>
        have hmoved : l.apply (.reallocate old r) = moved := congrArg Prod.snd hr
        have hword : Ledger.Word.reallocate l old r = some (l.apply (.reallocate old r)) :=
          Ledger.Word.reallocate_eq h (by rwa [hmoved])
        simp [Ledger.Word.apply, hword, hmoved]
      | error e =>
        simp [Ledger.Word.apply, word_reallocate_of_error h hr,
          Ledger.Word.replace_eq hmoves fits]

theorem settlement_inWord (h : l.Conserved) {event : Buffer} {q : Handle} {stack : Stack}
    {now : Moment} (fits : (settle l event q stack now).1.sum ≤ Numeral.maxUnsigned64) :
    (settlement l event q stack now).foldlM Word.apply l =
      some (settle l event q stack now).1 := by
  cases hs : stagedSize? event with
  | none => simp [settlement, settle, hs]
  | some n =>
    by_cases ho : stagedOld event = Handle.null
    · simp only [settlement, settle, hs, ho, if_true, Handle.isNull_iff] at fits ⊢
      exact allocation_inWord h fits
    · simp only [settlement, settle, hs, ho, if_false, Handle.isNull_iff] at fits ⊢
      exact reallocation_inWord h fits

theorem freeing_inWord (h : l.Conserved) (p : Handle) :
    (freeing p).foldlM Word.apply l = some (free l p).1 := by
  rw [← run_freeing]
  by_cases hp : p = Handle.null
  · simp [freeing, hp, Ledger.run]
  · simp [freeing, hp, Ledger.run, Ledger.Word.apply, Ledger.Word.remove_eq h]

end

end Allocations

namespace Agent

def operations (a : Agent) (c : ProbeCall) : List (Ledger.Operation Unit) :=
  match c.probe with
  | .size _ | .pointer _ => []
  | .result q =>
    Allocations.settlement a.allocations.ledger (a.staging.buffer (a.allocationSite c.thread)) q
      c.stack c.now
  | .free p => Allocations.freeing p

def history (a : Agent) : List ProbeCall → List (Ledger.Operation Unit)
  | [] => []
  | c :: calls => a.operations c ++ history (a.receive c) calls

theorem allocations_stage (a : Agent) (tracker : String) (thread logger position : Nat)
    (v : Value) : (a.stage tracker thread logger position v).allocations = a.allocations := by
  unfold stage
  split <;> rfl

theorem ledger_receive {a : Agent} (hcap : Logger.allocations < a.table.capacity)
    (c : ProbeCall) :
    (a.receive c).allocations.ledger = a.allocations.ledger.run (a.operations c) := by
  obtain ⟨thread, probe, stack, now⟩ := c
  cases probe with
  | size n => exact congrArg Allocations.ledger (allocations_stage _ _ _ _ _ _)
  | pointer p => exact congrArg Allocations.ledger (allocations_stage _ _ _ _ _ _)
  | result q =>
    have hclose := close?_allocation (a := { a with stack, now }) hcap allocationProbe thread
    rw [operations, Allocations.run_settlement]
    simp only [receive, closeAllocation, hclose, setAllocationLedger, warnAll_eq]
    rfl
  | free p =>
    rw [operations, Allocations.run_freeing]
    simp only [receive, Agent.free, setAllocationLedger, warnAll_eq]

/-- The agent after a run of probes: its open events are what the threads have staged, and its
ledger is in order. -/
structure Follows (a : Agent) (calls : List ProbeCall) : Prop where
  logger : Logger.allocations < a.table.capacity
  events : ∀ t, a.staging.buffer (a.allocationSite t) = (Staged.after t calls).event
  conserved : a.allocations.ledger.Conserved
  untracked : a.allocations.ledger.get? Handle.null = none

theorem follows_fresh (output : Output) (now : Moment) : Follows { output, now } [] where
  logger := by simp [Logger.allocations, Logger.count]
  events := fun _ => rfl
  conserved := Ledger.conserved_empty
  untracked := by simp [Allocations.create, Ledger.get?]

end Agent

namespace Staged

theorem after_concat (t : Nat) (calls : List ProbeCall) (c : ProbeCall) :
    after t (calls ++ [c]) = (after t calls).note t c := by
  simp [after]

theorem note_of_ne {t : Nat} {c : ProbeCall} (h : c.thread ≠ t) (s : Staged) : s.note t c = s := by
  simp [note, h]

theorem write_size (s : Staged) (n : Nat) :
    s.event.write Allocations.sizePosition (Allocations.sizeValue n) =
      event { s with size := some n } := by
  obtain ⟨size, old⟩ := s
  cases size <;> cases old <;> rfl

theorem write_pointer (s : Staged) (p : Handle) :
    s.event.write Allocations.oldPosition (.ref p.address) = event { s with old := some p } := by
  obtain ⟨size, old⟩ := s
  cases size <;> cases old <;> rfl

theorem settled_null {s : Staged} {records : Handle → Option (Record Unit)} {q : Handle}
    {stack : Stack} {now : Moment} (h : records Handle.null = none) :
    s.settled records q stack now Handle.null = none := by
  unfold settled
  cases s.size with
  | none => exact h
  | some n =>
    by_cases ho : s.old.getD Handle.null = Handle.null
    · by_cases hq : q = Handle.null
      · simp [ho, hq, h]
      · simp [ho, hq, Function.update_of_ne (Ne.symm hq), h]
    · have hreleased := Function.update_of_ne (Ne.symm ho) none records
      by_cases hn : n = 0
      · simp [ho, hn, hreleased, h]
      · by_cases hq : q = Handle.null
        · simp [ho, hn, hq, h]
        · simp [ho, hn, hq, Function.update_of_ne (Ne.symm hq), hreleased, h]

end Staged

namespace Agent.Follows

variable {a : Agent} {calls : List ProbeCall}

theorem events_setBuffer (h : a.Follows calls) {c : ProbeCall} {b : Buffer}
    (hb : b = ((Staged.after c.thread calls).note c.thread c).event) (t : Nat) :
    (a.staging.setBuffer (a.allocationSite c.thread) b).buffer (a.allocationSite t) =
      (Staged.after t (calls ++ [c])).event := by
  rw [Staged.after_concat]
  by_cases ht : c.thread = t
  · rw [← ht, Staging.buffer_setBuffer_self, hb]
  · have hne : a.allocationSite t ≠ a.allocationSite c.thread :=
      fun hc => ht (allocationSite_inj.mp hc).symm
    rw [Staging.buffer_setBuffer_of_ne hne, h.events t, Staged.note_of_ne ht]

theorem stage (h : a.Follows calls) {c : ProbeCall} {position : Nat} (hp : position < 64)
    {v : Value} (hv : (Staged.after c.thread calls).event.write position v =
      ((Staged.after c.thread calls).note c.thread c).event) :
    (a.stage allocationProbe c.thread Logger.allocations position v).Follows (calls ++ [c]) := by
  rw [← h.events c.thread] at hv
  rw [stage_allocation h.logger allocationProbe c.thread hp]
  exact ⟨h.logger, h.events_setBuffer hv, h.conserved, h.untracked⟩

theorem closeAllocation (h : a.Follows calls) {c : ProbeCall} {q : Handle}
    (hc : c.probe = .result q) :
    (a.closeAllocation c.thread q).Follows (calls ++ [c]) := by
  simp only [Agent.closeAllocation, close?_allocation h.logger, h.events, setAllocationLedger,
    warnAll_eq]
  refine ⟨h.logger, h.events_setBuffer (by simp [Staged.note, Staged.event, hc]), ?_, ?_⟩
  · rw [← Allocations.run_settlement]
    exact h.conserved.run _
  · rw [Allocations.get?_settle]
    exact Staged.settled_null h.untracked

theorem free (h : a.Follows calls) {c : ProbeCall} {p : Handle} (hc : c.probe = .free p) :
    (a.free p).Follows (calls ++ [c]) := by
  have hnote : ∀ t s, Staged.note t s c = s := fun t s => by simp [Staged.note, hc]
  simp only [Agent.free, setAllocationLedger, warnAll_eq]
  refine ⟨h.logger, fun t => ?_, ?_, ?_⟩
  · rw [Staged.after_concat, hnote]
    exact h.events t
  · rw [← Allocations.run_freeing]
    exact h.conserved.run _
  · rw [Allocations.get?_free h.untracked]
    simp [Function.update_apply, h.untracked]

theorem receive (h : a.Follows calls) (c : ProbeCall) :
    (a.receive c).Follows (calls ++ [c]) := by
  have hb : Follows { a with stack := c.stack, now := c.now } calls :=
    ⟨h.logger, h.events, h.conserved, h.untracked⟩
  unfold Agent.receive
  cases hc : c.probe with
  | size n => exact hb.stage (by decide) (by simp [Staged.write_size, Staged.note, hc])
  | pointer p => exact hb.stage (by decide) (by simp [Staged.write_pointer, Staged.note, hc])
  | result q => exact hb.closeAllocation hc
  | free p => exact hb.free hc

theorem receiveAll (h : a.Follows calls) (more : List ProbeCall) :
    (a.receiveAll more).Follows (calls ++ more) := by
  induction more generalizing a calls with
  | nil => rwa [List.append_nil]
  | cons c more ih =>
    have hmore := ih (h.receive c)
    rwa [List.append_assoc] at hmore

theorem settled_receive (h : a.Follows calls) (c : ProbeCall) :
    (a.receive c).allocations.ledger.get? =
      c.settled (Staged.after c.thread calls) a.allocations.ledger.get? := by
  rw [ledger_receive h.logger]
  obtain ⟨thread, probe, stack, now⟩ := c
  cases probe with
  | size n => rfl
  | pointer p => rfl
  | result q =>
    simp only [operations, Allocations.run_settlement, h.events, ProbeCall.settled,
      Allocations.get?_settle]
  | free p =>
    simp only [operations, Allocations.run_freeing, ProbeCall.settled,
      Allocations.get?_free h.untracked]

theorem operations_inWord (h : a.Follows calls) {c : ProbeCall}
    (fits : (a.receive c).allocations.ledger.sum ≤ Numeral.maxUnsigned64) :
    (a.operations c).foldlM Ledger.Word.apply a.allocations.ledger =
      some (a.receive c).allocations.ledger := by
  rw [ledger_receive h.logger] at fits ⊢
  obtain ⟨thread, probe, stack, now⟩ := c
  cases probe with
  | size n => rfl
  | pointer p => rfl
  | result q =>
    simp only [operations, Allocations.run_settlement] at fits ⊢
    exact Allocations.settlement_inWord h.conserved fits
  | free p =>
    simp only [operations, Allocations.run_freeing]
    exact Allocations.freeing_inWord h.conserved p

theorem history_inWord (h : a.Follows calls) {more : List ProbeCall}
    (fits : ∀ earlier, earlier <+: more →
      (a.receiveAll earlier).allocations.ledger.sum ≤ Numeral.maxUnsigned64) :
    (a.history more).foldlM Ledger.Word.apply a.allocations.ledger =
      some (a.receiveAll more).allocations.ledger := by
  induction more generalizing a calls with
  | nil => rfl
  | cons c more ih =>
    have hfirst := h.operations_inWord (c := c) (fits [c] (by simp))
    have hmore := ih (h.receive c) fun earlier he =>
      fits (c :: earlier) ((List.prefix_cons_inj c).mpr he)
    rw [history, List.foldlM_append, hfirst]
    exact hmore

end Agent.Follows

namespace Agent

/-- Probes of any threads in any order, whatever handles they name. At every moment a further
probe has the effect on the records that its thread has staged for it, and none if it stages
itself. The total is the sum of the sizes, the null handle has no record, and as long as the sums
fit 64 bits the operations come out the same on a word. -/
theorem ledger_follows_any_probes (output : Output) (start : Moment) (calls : List ProbeCall) :
    let fresh : Agent := { output, now := start }
    let a := fresh.receiveAll calls
    let ledger := a.allocations.ledger
    (∀ c : ProbeCall, (a.receive c).allocations.ledger.get? =
        c.settled (Staged.after c.thread calls) ledger.get?) ∧
      ledger.total = ledger.sum ∧ ledger.get? Handle.null = none ∧
      (∀ h r, ledger.get? h = some r → r.handle = h) ∧
      ((∀ earlier, earlier <+: calls →
          (fresh.receiveAll earlier).allocations.ledger.sum ≤ Numeral.maxUnsigned64) →
        (fresh.history calls).foldlM Ledger.Word.apply {} = some ledger) := by
  intro fresh a ledger
  have hfresh : fresh.Follows [] := follows_fresh output start
  have h : a.Follows calls := hfresh.receiveAll calls
  exact ⟨h.settled_receive, h.conserved.total_eq, h.untracked, h.conserved.handle_eq,
    hfresh.history_inWord⟩

/-- Sizes staged twice, a pointer without a size, an untracked old pointer, a handle given out
twice, two events of one thread inside each other, and handles freed that nobody has. -/
def unrulyProbes : List ProbeCall :=
  let call (thread : Nat) (probe : Probe) : ProbeCall := { thread, probe }
  [call 1 (.size 10), call 1 (.size 40), call 1 (.result ⟨0x10⟩),
   call 2 (.pointer ⟨0x10⟩), call 2 (.result ⟨0x20⟩),
   call 2 (.size (2 ^ 63)), call 2 (.pointer ⟨0x99⟩), call 1 (.size 30), call 2 (.result ⟨0x20⟩),
   call 1 (.result ⟨0x10⟩), call 1 (.size 7), call 1 (.size 8), call 1 (.pointer ⟨0x20⟩),
   call 1 (.result ⟨0x10⟩), call 1 (.result ⟨0x30⟩), call 2 (.free ⟨0x99⟩),
   call 2 (.free Handle.null), call 2 (.size 0), call 2 (.pointer ⟨0x10⟩)]

theorem ledger_follows_unruly_probes :
    ((receiveAll { output := {}, now := ⟨0⟩ } unrulyProbes).allocations.ledger.records.toList.map
        fun e => (e.1.address, e.2.size)) = [(0x10, 8)] ∧
      ((receiveAll { output := {}, now := ⟨0⟩ } unrulyProbes).receive
          { thread := 2, probe := .result ⟨0x77⟩ }).allocations.ledger.get? =
        Function.update
          (receiveAll { output := {}, now := ⟨0⟩ } unrulyProbes).allocations.ledger.get?
          ⟨0x10⟩ none ∧
      (∀ earlier, earlier <+: unrulyProbes →
        (receiveAll { output := {}, now := ⟨0⟩ } earlier).allocations.ledger.sum ≤
          Numeral.maxUnsigned64) ∧
      (history { output := {}, now := ⟨0⟩ } unrulyProbes).foldlM Ledger.Word.apply {} =
        some (receiveAll { output := {}, now := ⟨0⟩ } unrulyProbes).allocations.ledger := by
  have fits : ∀ earlier, earlier <+: unrulyProbes →
      (receiveAll { output := {}, now := ⟨0⟩ } earlier).allocations.ledger.sum ≤
        Numeral.maxUnsigned64 := by
    intro earlier he
    have hall : ∀ first ∈ unrulyProbes.inits,
        (receiveAll { output := {}, now := ⟨0⟩ } first).allocations.ledger.sum ≤
          Numeral.maxUnsigned64 := by decide +kernel
    exact hall earlier ((List.mem_inits _ _).mpr he)
  have hstaged : Staged.after 2 unrulyProbes = ⟨some 0, some ⟨0x10⟩⟩ := by decide
  have hreleased : ∀ records, ProbeCall.settled { thread := 2, probe := .result ⟨0x77⟩ }
      ⟨some 0, some ⟨0x10⟩⟩ records = Function.update records ⟨0x10⟩ none := fun _ => rfl
  obtain ⟨hprobes, _, _, _, hword⟩ := ledger_follows_any_probes {} ⟨0⟩ unrulyProbes
  have hlast := hprobes { thread := 2, probe := .result ⟨0x77⟩ }
  rw [hstaged, hreleased] at hlast
  exact ⟨by decide +kernel, hlast, fits, hword fits⟩

end Agent

end ResourceTrace
