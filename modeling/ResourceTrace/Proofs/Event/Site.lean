import ResourceTrace.Agent
import ResourceTrace.Proofs.Event.Isolation

set_option autoImplicit false

namespace ResourceTrace.Agent

def site (a : Agent) (logger thread : Nat) : Site := ⟨thread, a.table.id, logger⟩

variable {a : Agent} {logger : Nat}

theorem site_inj {t u : Nat} : a.site logger t = a.site logger u ↔ t = u := by simp [site]

theorem stage_of_logger (hcap : logger < a.table.capacity) (tracker : String) (thread : Nat)
    {position : Nat} (hp : position < 64) (v : Value) :
    a.stage tracker thread logger position v =
      { a with
        staging := a.staging.setBuffer (a.site logger thread)
          ((a.staging.buffer (a.site logger thread)).write position v) } := by
  simp [stage, Staging.stage_eq, hcap, hp, site]

theorem close?_of_logger (hcap : logger < a.table.capacity) (tracker : String) (thread : Nat) :
    a.close? tracker thread logger =
      (some (a.staging.buffer (a.site logger thread)),
        { a with staging := a.staging.setBuffer (a.site logger thread) [] }) := by
  simp [close?, Staging.finalize_eq, hcap, site]

theorem warnAll_eq (a : Agent) (messages : List String) :
    a.warnAll messages = { a with output := messages.foldl Output.warn a.output } := by
  induction messages generalizing a with
  | nil => rfl
  | cons message messages ih => exact ih (a.warn message)

end ResourceTrace.Agent
