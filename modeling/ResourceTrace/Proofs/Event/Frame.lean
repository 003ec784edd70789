import ResourceTrace.Agent.Dumps
import ResourceTrace.Proofs.Event.Site

set_option autoImplicit false

namespace ResourceTrace.Agent

/-- The two agree on the ledgers and on all events of a logger that are under way. -/
structure Aside (logger : Nat) (a b : Agent) : Prop where
  allocations : b.allocations = a.allocations
  files : b.files = a.files
  table : b.table = a.table
  events : ∀ t, b.staging.buffer (a.site logger t) = a.staging.buffer (a.site logger t)

variable {logger : Nat}

namespace Aside

variable {a b c : Agent}

theorem of_staging (hallocations : b.allocations = a.allocations) (hfiles : b.files = a.files)
    (htable : b.table = a.table) (hstaging : b.staging = a.staging) : Aside logger a b :=
  ⟨hallocations, hfiles, htable, fun _ => by rw [hstaging]⟩

theorem refl (a : Agent) : Aside logger a a := of_staging rfl rfl rfl rfl

theorem trans (h : Aside logger a b) (h' : Aside logger b c) : Aside logger a c where
  allocations := h'.allocations.trans h.allocations
  files := h'.files.trans h.files
  table := h'.table.trans h.table
  events t := by
    have hevents := h'.events t
    rw [site, h.table] at hevents
    exact hevents.trans (h.events t)

end Aside

section

variable {other : Nat} (hl : other ≠ logger)

include hl

theorem aside_setBuffer (a : Agent) (thread : Nat) (b : Buffer) :
    Aside logger a { a with staging := a.staging.setBuffer ⟨thread, a.table.id, other⟩ b } where
  allocations := rfl
  files := rfl
  table := rfl
  events t := by
    have hsite : a.site logger t ≠ ⟨thread, a.table.id, other⟩ := by simp [site, Ne.symm hl]
    exact Staging.buffer_setBuffer_of_ne hsite _ _

theorem aside_stage (a : Agent) (tracker : String) (thread position : Nat) (v : Value) :
    Aside logger a (a.stage tracker thread other position v) := by
  rw [stage, Staging.stage_eq]
  by_cases hcap : other < a.table.capacity
  · by_cases hp : position < 64
    · simp only [hcap, hp, if_true]
      exact aside_setBuffer hl a thread _
    · simp only [hcap, hp, if_true, if_false]
      exact .of_staging rfl rfl rfl rfl
  · simp only [hcap, if_false]
    exact .of_staging rfl rfl rfl rfl

theorem aside_close? (a : Agent) (tracker : String) (thread : Nat) :
    Aside logger a (a.close? tracker thread other).2 := by
  rw [close?, Staging.finalize_eq]
  by_cases hcap : other < a.table.capacity
  · simp only [hcap, if_true]
    exact aside_setBuffer hl a thread []
  · simp only [hcap, if_false]
    exact .of_staging rfl rfl rfl rfl

end

theorem aside_reportChange (a : Agent) (kind : ChangeKind) (c : Change) :
    Aside logger a (a.reportChange kind c) := by
  rw [reportChange]
  dsimp only
  split
  · exact .of_staging rfl rfl rfl rfl
  · exact .refl a

theorem aside_closeChange {kind : ChangeKind} (hl : kind.logger ≠ logger) (a : Agent) (thread : Nat)
    (old : Option String) : Aside logger a (a.closeChange thread kind old).2 := by
  have hstage := aside_stage hl a (changeProbe kind) thread Change.oldPosition (Change.staged old)
  have hclose := hstage.trans (aside_close? hl _ (changeProbe kind) thread)
  rw [closeChange]
  dsimp only [stageChange]
  split
  next b hb =>
    rw [hb] at hclose
    exact hclose
  next event b hb =>
    rw [hb] at hclose
    split
    · exact hclose.trans (aside_reportChange b kind _)
    · exact hclose

section

variable {number : Nat} (hl : Logger.values number ≠ logger)

include hl

theorem aside_stageValue (a : Agent) (thread : Nat) (v : Value) :
    Aside logger a (a.stageValue thread number v) := by
  rw [stageValue]
  split
  · exact .of_staging rfl rfl rfl rfl
  · rw [Staging.push_eq]
    by_cases hcap : Logger.values number < a.table.capacity
    · by_cases hb : (a.staging.buffer ⟨thread, a.table.id, Logger.values number⟩).length < 64
      · simp only [hcap, hb, if_true]
        exact aside_setBuffer hl a thread _
      · simp only [hcap, hb, if_true, if_false]
        exact .of_staging rfl rfl rfl rfl
    · simp only [hcap, if_false]
      exact .of_staging rfl rfl rfl rfl

theorem aside_finalizeWith (a : Agent) (thread : Nat) (v : Value) :
    Aside logger a { a with
      staging := (a.staging.finalizeWith a.table thread (Logger.values number) v).2 } := by
  rw [Staging.finalizeWith_eq]
  by_cases hcap : Logger.values number < a.table.capacity
  · by_cases hb : (a.staging.buffer ⟨thread, a.table.id, Logger.values number⟩).length < 64
    · simp only [hcap, hb, if_true]
      have hpushed := aside_setBuffer hl a thread
        (a.staging.buffer ⟨thread, a.table.id, Logger.values number⟩ ++ [v])
      exact hpushed.trans (aside_setBuffer hl _ thread [])
    · simp only [hcap, hb, if_true, if_false]
      exact aside_setBuffer hl a thread []
  · simp only [hcap, if_false]
    exact .refl a

theorem aside_closeValues [PatternEngine] (a : Agent) (thread : Nat) (v : Value) :
    Aside logger a (a.closeValues thread number v) := by
  have hclosed := aside_finalizeWith hl a thread v
  rw [closeValues]
  split
  · exact .of_staging rfl rfl rfl rfl
  · split
    next event staging hevent =>
      rw [hevent] at hclosed
      dsimp only
      split
      · exact hclosed.trans (.of_staging rfl rfl rfl rfl)
      · exact hclosed
    next e staging hevent =>
      rw [hevent] at hclosed
      exact hclosed.trans (.of_staging rfl rfl rfl rfl)

end

theorem aside_arm (a : Agent) (kind : DumpKind) (name : String) (switch : Switch) :
    Aside logger a (a.arm kind name switch) := by
  rw [arm]
  split
  · exact .refl a
  · dsimp only
    split
    · exact .of_staging rfl rfl rfl rfl
    · exact .of_staging rfl rfl rfl rfl

theorem aside_start (a : Agent) : Aside logger a a.start := by
  rw [start]
  split
  · exact .refl a
  · have hregister (b : Agent) (kind : DumpKind) (commands : List Command) :
        Aside logger b (b.register kind commands) := .of_staging rfl rfl rfl rfl
    have hstarted : Aside logger a { a with started := true } := .of_staging rfl rfl rfl rfl
    exact (((hstarted.trans (hregister _ _ _)).trans (aside_arm _ _ _ _)).trans
      (hregister _ _ _)).trans (aside_arm _ _ _ _)

end ResourceTrace.Agent
