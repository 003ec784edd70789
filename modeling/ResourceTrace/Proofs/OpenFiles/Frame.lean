import ResourceTrace.Proofs.Event.Frame
import ResourceTrace.Proofs.OpenFiles.Run

set_option autoImplicit false

namespace ResourceTrace

theorem ChangeKind.logger_ne (kind : ChangeKind) : kind.logger ≠ Logger.openFiles := by
  cases kind <;> decide

theorem Logger.values_ne (number : Nat) : Logger.values number ≠ Logger.openFiles := by
  simp only [Logger.values, Logger.openFiles]
  omega

namespace Agent

/-- The two agree on the open files and on all events of the file probes that are under way. -/
structure SameFiles (a b : Agent) : Prop where
  files : b.files = a.files
  table : b.table = a.table
  events : ∀ t, b.staging.buffer (a.site Logger.openFiles t) =
    a.staging.buffer (a.site Logger.openFiles t)

namespace SameFiles

variable {a b c : Agent}

theorem of_staging (hfiles : b.files = a.files) (htable : b.table = a.table)
    (hstaging : b.staging = a.staging) : SameFiles a b :=
  ⟨hfiles, htable, fun _ => by rw [hstaging]⟩

theorem of_aside (h : Aside Logger.openFiles a b) : SameFiles a b := ⟨h.files, h.table, h.events⟩

theorem refl (a : Agent) : SameFiles a a := of_staging rfl rfl rfl

theorem trans (h : SameFiles a b) (h' : SameFiles b c) : SameFiles a c where
  files := h'.files.trans h.files
  table := h'.table.trans h.table
  events t := by
    have hevents := h'.events t
    rw [site, h.table] at hevents
    exact hevents.trans (h.events t)

theorem tracks (h : SameFiles a b) {log : OpenFiles.History} (ha : a.Tracks log) :
    b.Tracks log where
  logger := by rw [h.table]; exact ha.logger
  holds := by rw [h.files]; exact ha.holds
  events t := by
    rw [← ha.events t, site, h.table]
    exact h.events t

end SameFiles

section

variable {logger : Nat} (hl : logger ≠ Logger.openFiles)

include hl

theorem sameFiles_stage (a : Agent) (tracker : String) (thread position : Nat) (v : Value) :
    SameFiles a (a.stage tracker thread logger position v) :=
  .of_aside (aside_stage hl a tracker thread position v)

theorem sameFiles_close? (a : Agent) (tracker : String) (thread : Nat) :
    SameFiles a (a.close? tracker thread logger).2 :=
  .of_aside (aside_close? hl a tracker thread)

end

theorem sameFiles_setAllocationLedger (a : Agent) (settled : Allocations.Settled) :
    SameFiles a (a.setAllocationLedger settled) := by
  rw [setAllocationLedger, warnAll_eq]
  exact .of_staging rfl rfl rfl

theorem sameFiles_closeAllocation (a : Agent) (thread : Nat) (result : Handle) :
    SameFiles a (a.closeAllocation thread result) := by
  have hclose := sameFiles_close? (by decide : Logger.allocations ≠ Logger.openFiles) a
    allocationProbe thread
  rw [closeAllocation]
  split
  next b hb =>
    rw [hb] at hclose
    exact hclose
  next event b hb =>
    rw [hb] at hclose
    exact hclose.trans (sameFiles_setAllocationLedger b _)

theorem sameFiles_free (a : Agent) (pointer : Handle) : SameFiles a (a.free pointer) :=
  sameFiles_setAllocationLedger a _

theorem sameFiles_stageValue (a : Agent) (thread number : Nat) (v : Value) :
    SameFiles a (a.stageValue thread number v) :=
  .of_aside (aside_stageValue (Logger.values_ne number) a thread v)

theorem sameFiles_closeValues [PatternEngine] (a : Agent) (thread number : Nat) (v : Value) :
    SameFiles a (a.closeValues thread number v) :=
  .of_aside (aside_closeValues (Logger.values_ne number) a thread v)

theorem sameFiles_start (a : Agent) : SameFiles a a.start := .of_aside (aside_start a)

end Agent

end ResourceTrace
