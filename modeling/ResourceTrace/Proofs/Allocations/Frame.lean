import ResourceTrace.Agent.Commands
import ResourceTrace.Proofs.Allocations.Listing
import ResourceTrace.Proofs.Event.Frame

set_option autoImplicit false

namespace ResourceTrace.Agent

/-- The two agree on the live allocations and on all events of the allocation probes that are under
way. -/
structure SameAllocations (a b : Agent) : Prop where
  ledger : b.allocations.ledger = a.allocations.ledger
  table : b.table = a.table
  events : ∀ t, b.staging.buffer (a.allocationSite t) = a.staging.buffer (a.allocationSite t)

namespace SameAllocations

variable {a b c : Agent}

theorem of_aside (h : Aside Logger.allocations a b) : SameAllocations a b :=
  ⟨by rw [h.allocations], h.table, h.events⟩

theorem of_staging (hledger : b.allocations.ledger = a.allocations.ledger)
    (htable : b.table = a.table) (hstaging : b.staging = a.staging) : SameAllocations a b :=
  ⟨hledger, htable, fun _ => by rw [hstaging]⟩

theorem refl (a : Agent) : SameAllocations a a := of_staging rfl rfl rfl

theorem trans (h : SameAllocations a b) (h' : SameAllocations b c) : SameAllocations a c where
  ledger := h'.ledger.trans h.ledger
  table := h'.table.trans h.table
  events t := by
    have hevents := h'.events t
    rw [allocationSite, h.table] at hevents
    exact hevents.trans (h.events t)

theorem lists (h : SameAllocations a b) {o : Output} {t : Nat} {event : Buffer}
    {bs : List (Handle × Nat)} (ha : a.Lists o t event bs) : b.Lists b.output t event bs where
  logger := by rw [h.table]; exact ha.logger
  events := by rw [← ha.events, allocationSite, h.table]; exact h.events t
  ledger := by rw [h.ledger]; exact ha.ledger
  output := rfl

end SameAllocations

theorem openFiles_ne_allocations : Logger.openFiles ≠ Logger.allocations := by decide

theorem sameAllocations_stageFile (a : Agent) (thread position : Nat) (v : Value) :
    SameAllocations a (a.stage fileProbe thread Logger.openFiles position v) :=
  .of_aside (aside_stage openFiles_ne_allocations a fileProbe thread position v)

theorem sameAllocations_closeOpening (a : Agent) (thread : Nat) (h : Handle) :
    SameAllocations a (a.closeOpening thread h) := by
  have hclose : SameAllocations a (a.close? fileProbe thread Logger.openFiles).2 :=
    .of_aside (aside_close? openFiles_ne_allocations a fileProbe thread)
  rw [closeOpening]
  split
  next b hb =>
    rw [hb] at hclose
    exact hclose
  next event b hb =>
    rw [hb] at hclose
    simp only [warnAll_eq]
    exact hclose.trans (.of_staging rfl rfl rfl)

theorem sameAllocations_closeFile (a : Agent) (h : Handle) : SameAllocations a (a.closeFile h).2 :=
  .of_staging rfl rfl rfl

theorem sameAllocations_configure {a b : Agent} {name line : String}
    (h : a.configure name line = .ok b) : SameAllocations a b := by
  rw [configure] at h
  split at h
  · cases h
  · cases h
    exact .of_staging rfl rfl rfl

end ResourceTrace.Agent
