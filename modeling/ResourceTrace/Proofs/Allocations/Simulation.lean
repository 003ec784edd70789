import ResourceTrace.Proofs.Allocations.Heap
import ResourceTrace.Proofs.Event.Site

/-!
The allocation ledger simulates the heap. Threads report their calls in several probes, which
interleave with those of other threads in any way; a call takes effect on the heap when its last
probe reports it. At every moment the ledger holds exactly the live blocks, and the agent has
had nothing to warn about.
-/

set_option autoImplicit false

namespace ResourceTrace

inductive Probe where
  | size (n : Nat)
  | pointer (p : Handle)
  | result (q : Handle)
  | free (p : Handle)
  deriving DecidableEq, Repr

structure ProbeCall where
  thread : Nat
  probe : Probe
  stack : Stack := []
  now : Moment := ⟨0⟩
  deriving DecidableEq, Repr

namespace Agent

def receive (a : Agent) (c : ProbeCall) : Agent :=
  let a := { a with stack := c.stack, now := c.now }
  match c.probe with
  | .size n => a.stageSize c.thread n
  | .pointer p => a.stagePointer c.thread p
  | .result q => a.closeAllocation c.thread q
  | .free p => a.free p

def receiveAll (a : Agent) (calls : List ProbeCall) : Agent := calls.foldl receive a

end Agent

inductive Pending where
  | idle
  | sized (n : Nat)
  | moving (p : Handle) (n : Nat)
  deriving DecidableEq, Repr

structure World where
  heap : Heap := Heap.empty
  pending : Nat → Pending := fun _ => .idle

namespace World

def setPending (w : World) (thread : Nat) (p : Pending) : World :=
  { w with pending := Function.update w.pending thread p }

def settle (w : World) (thread : Nat) (heap : Heap) : World :=
  { w.setPending thread .idle with heap }

inductive Step (w : World) : ProbeCall → World → Prop where
  | size {t n stack now} (hidle : w.pending t = .idle) :
      Step w ⟨t, .size n, stack, now⟩ (w.setPending t (.sized n))
  | pointer {t n p stack now} (hsized : w.pending t = .sized n) :
      Step w ⟨t, .pointer p, stack, now⟩ (w.setPending t (.moving p n))
  | malloc {t n q stack now heap} (hsized : w.pending t = .sized n)
      (heffect : w.heap.Malloc n q heap) :
      Step w ⟨t, .result q, stack, now⟩ (w.settle t heap)
  | realloc {t n p q stack now heap} (hmoving : w.pending t = .moving p n)
      (heffect : w.heap.Realloc p n q heap) :
      Step w ⟨t, .result q, stack, now⟩ (w.settle t heap)
  | free {t p stack now heap} (hidle : w.pending t = .idle) (heffect : w.heap.Free p heap) :
      Step w ⟨t, .free p, stack, now⟩ { w with heap }

inductive Run : World → List ProbeCall → World → Prop where
  | nil (w : World) : Run w [] w
  | cons {w v u : World} {c : ProbeCall} {calls : List ProbeCall} (first : w.Step c v)
      (rest : Run v calls u) : Run w (c :: calls) u

end World

/-- The values that are staged for the reported part of a call. Nothing is left of earlier calls,
so that an allocation never meets the old pointer of a reallocation. -/
def Pending.event : Pending → Buffer
  | idle => []
  | sized n => [Allocations.sizeValue n]
  | moving p n => [Allocations.sizeValue n, .ref p.address]

namespace Agent

def allocationSite (a : Agent) (thread : Nat) : Site :=
  ⟨thread, a.table.id, Logger.allocations⟩

theorem allocationSite_inj {a : Agent} {t u : Nat} :
    a.allocationSite t = a.allocationSite u ↔ t = u :=
  site_inj

theorem stage_allocation {a : Agent} (hcap : Logger.allocations < a.table.capacity)
    (tracker : String) (thread : Nat) {position : Nat} (hp : position < 64) (v : Value) :
    a.stage tracker thread Logger.allocations position v =
      { a with
        staging := a.staging.setBuffer (a.allocationSite thread)
          ((a.staging.buffer (a.allocationSite thread)).write position v) } :=
  stage_of_logger hcap tracker thread hp v

theorem close?_allocation {a : Agent} (hcap : Logger.allocations < a.table.capacity)
    (tracker : String) (thread : Nat) :
    a.close? tracker thread Logger.allocations =
      (some (a.staging.buffer (a.allocationSite thread)),
        { a with staging := a.staging.setBuffer (a.allocationSite thread) [] }) :=
  close?_of_logger hcap tracker thread

structure Mirrors (a : Agent) (w : World) : Prop where
  logger : Logger.allocations < a.table.capacity
  blocks : a.allocations.ledger.Blocks w.heap.block?
  events : ∀ t, a.staging.buffer (a.allocationSite t) = (w.pending t).event

theorem mirrors_fresh (now : Moment) : Mirrors { now } {} where
  logger := by simp [Logger.allocations, Logger.count]
  blocks := ⟨Ledger.conserved_empty, fun p => by simp [Allocations.create, Ledger.get?]⟩
  events := fun _ => rfl

variable {a : Agent} {w : World} {t : Nat}

namespace Mirrors

theorem events_setBuffer (h : a.Mirrors w) {p : Pending} {b : Buffer} (hb : b = p.event)
    (u : Nat) :
    (a.staging.setBuffer (a.allocationSite t) b).buffer (a.allocationSite u) =
      ((w.setPending t p).pending u).event := by
  by_cases hu : u = t
  · subst hu
    simp [World.setPending, hb]
  · have hne : a.allocationSite u ≠ a.allocationSite t := fun hc => hu (allocationSite_inj.mp hc)
    rw [Staging.buffer_setBuffer_of_ne hne, h.events u]
    simp [World.setPending, hu]

theorem stage (h : a.Mirrors w) (tracker : String) {position : Nat} (hp : position < 64)
    {v : Value} {p : Pending} (hv : (w.pending t).event.write position v = p.event) :
    (a.stage tracker t Logger.allocations position v).Mirrors (w.setPending t p) ∧
      (a.stage tracker t Logger.allocations position v).output = a.output := by
  rw [← h.events t] at hv
  rw [stage_allocation h.logger tracker t hp]
  exact ⟨⟨h.logger, h.blocks, h.events_setBuffer hv⟩, rfl⟩

theorem closeAllocation (h : a.Mirrors w) {q : Handle} {heap : Heap}
    (heffect : ∃ l, Allocations.settle a.allocations.ledger (w.pending t).event q a.stack a.now =
      (l, []) ∧ l.Blocks heap.block?) :
    (a.closeAllocation t q).Mirrors (w.settle t heap) ∧
      (a.closeAllocation t q).output = a.output := by
  obtain ⟨l, hl, hblocks⟩ := heffect
  rw [← h.events t] at hl
  simp only [Agent.closeAllocation, close?_allocation h.logger, hl, setAllocationLedger, warnAll,
    List.foldl_nil, and_true]
  exact ⟨h.logger, hblocks, h.events_setBuffer (p := .idle) rfl⟩

theorem free (h : a.Mirrors w) {p : Handle} {heap : Heap} (heffect : w.heap.Free p heap) :
    (a.free p).Mirrors { w with heap } ∧ (a.free p).output = a.output := by
  obtain ⟨l, hl, hblocks⟩ := Allocations.free_blocks h.blocks heffect
  simp only [Agent.free, hl, setAllocationLedger, warnAll, List.foldl_nil, and_true]
  exact ⟨h.logger, hblocks, h.events⟩

theorem step (h : a.Mirrors w) {c : ProbeCall} {v : World} (hs : w.Step c v) :
    (a.receive c).Mirrors v ∧ (a.receive c).output = a.output := by
  -- The records keep the stack and the time of a probe, but no block depends on them.
  have hb : Mirrors { a with stack := c.stack, now := c.now } w := ⟨h.logger, h.blocks, h.events⟩
  cases hs with
  | size hidle =>
    refine hb.stage allocationProbe (by decide) ?_
    rw [hidle]
    rfl
  | pointer hsized =>
    refine hb.stage allocationProbe (by decide) ?_
    rw [hsized]
    rfl
  | malloc hsized heffect =>
    refine hb.closeAllocation ?_
    rw [hsized, Pending.event, Allocations.settle_sized]
    exact Allocations.allocate_blocks hb.blocks heffect
  | realloc hmoving heffect =>
    refine hb.closeAllocation ?_
    rw [hmoving]
    exact Allocations.settle_moving_blocks hb.blocks heffect
  | free _ heffect => exact hb.free heffect

theorem run (h : a.Mirrors w) {calls : List ProbeCall} {v : World} (hr : w.Run calls v) :
    (a.receiveAll calls).Mirrors v ∧ (a.receiveAll calls).output = a.output := by
  induction hr generalizing a with
  | nil w => exact ⟨h, rfl⟩
  | cons first rest ih =>
    obtain ⟨hmirrors, houtput⟩ := h.step first
    obtain ⟨hend, hrest⟩ := ih hmirrors
    exact ⟨hend, hrest.trans houtput⟩

end Mirrors

/-- Whatever the threads do with the heap, and however their probes interleave, the ledger holds
exactly the live blocks, its total is that of the heap, and nothing has been put out. This holds
after every probe, because the beginning of a run is a run. -/
theorem ledger_mirrors_heap {calls : List ProbeCall} {v : World} (start : a.Mirrors w)
    (run : w.Run calls v) :
    let ledger := (a.receiveAll calls).allocations.ledger
    (∀ p, (ledger.get? p).map Record.size = v.heap.block? p) ∧
      (∀ p r, ledger.get? p = some r → r.handle = p) ∧
      ledger.total = v.heap.total ∧ ledger.total ≤ Numeral.maxUnsigned64 ∧
      (a.receiveAll calls).output = a.output := by
  obtain ⟨hmirrors, houtput⟩ := start.run run
  have hblocks := hmirrors.blocks
  have htotal := hblocks.total_eq
  have hfits : v.heap.total ≤ Numeral.maxUnsigned64 := v.heap.fits
  exact ⟨hblocks.size_eq, hblocks.conserved.handle_eq, htotal, by omega, houtput⟩

/-- One thread allocates a block that is too large for a signed size while another allocates and
frees; the small block is then moved. -/
def twoThreads : List ProbeCall :=
  [{ thread := 1, probe := .size (2 ^ 63) }, { thread := 2, probe := .size 100 },
   { thread := 1, probe := .result ⟨0x10⟩ }, { thread := 2, probe := .result ⟨0x20⟩ },
   { thread := 1, probe := .size 300 }, { thread := 1, probe := .pointer ⟨0x20⟩ },
   { thread := 2, probe := .free ⟨0x10⟩ }, { thread := 1, probe := .result ⟨0x30⟩ }]

def twoThreadsSize (p : Handle) : Nat :=
  if p = ⟨0x10⟩ then 2 ^ 63 else if p = ⟨0x20⟩ then 100 else 300

theorem ledger_mirrors_heap_of_two_threads :
    Mirrors { now := ⟨0⟩ } {} ∧
    ∃ v, World.Run {} twoThreads v ∧ v.heap.live = {⟨0x30⟩} ∧
      let ledger := (receiveAll { now := ⟨0⟩ } twoThreads).allocations.ledger
      (∀ p, (ledger.get? p).map Record.size = v.heap.block? p) ∧
        (∀ p r, ledger.get? p = some r → r.handle = p) ∧
        ledger.total = v.heap.total ∧ ledger.total ≤ Numeral.maxUnsigned64 ∧
        (receiveAll { now := ⟨0⟩ } twoThreads).output = {} := by
  let large : Heap := ⟨{⟨0x10⟩}, twoThreadsSize, by decide, by decide⟩
  let both : Heap := ⟨{⟨0x10⟩, ⟨0x20⟩}, twoThreadsSize, by decide, by decide⟩
  let small : Heap := ⟨{⟨0x20⟩}, twoThreadsSize, by decide, by decide⟩
  let moved : Heap := ⟨{⟨0x30⟩}, twoThreadsSize, by decide, by decide⟩
  have hlarge : Heap.empty.Malloc (2 ^ 63) ⟨0x10⟩ large := by
    refine .placed (by decide) (by decide) (funext fun p => ?_)
    by_cases hp : p = ⟨0x10⟩ <;> simp [large, Heap.block?, Heap.empty, twoThreadsSize, hp]
  have hboth : large.Malloc 100 ⟨0x20⟩ both := by
    refine .placed (by decide) (by decide) (funext fun p => ?_)
    by_cases hp : p = ⟨0x20⟩ <;> simp [large, both, Heap.block?, twoThreadsSize, hp]
  have hsmall : both.Free ⟨0x10⟩ small := by
    refine .released (by decide) (funext fun p => ?_)
    by_cases hp : p = ⟨0x10⟩ <;> simp [both, small, Heap.block?, twoThreadsSize, hp]
  have hmoved : small.Realloc ⟨0x20⟩ 300 ⟨0x30⟩ moved := by
    refine .moved (by decide) (by decide) (by decide) (.inr (by decide)) (funext fun p => ?_)
    by_cases hp : p = ⟨0x30⟩ <;> by_cases hq : p = ⟨0x20⟩ <;>
      simp [small, moved, Heap.block?, twoThreadsSize, hp, hq]
  have hstart := mirrors_fresh ⟨0⟩
  have hrun : World.Run {} twoThreads _ :=
    .cons (.size rfl) (.cons (.size rfl) (.cons (.malloc rfl hlarge) (.cons (.malloc rfl hboth)
      (.cons (.size rfl) (.cons (.pointer rfl) (.cons (.free rfl hsmall)
      (.cons (.realloc rfl hmoved) (.nil _))))))))
  exact ⟨hstart, _, hrun, rfl, ledger_mirrors_heap hstart hrun⟩

end Agent

end ResourceTrace
