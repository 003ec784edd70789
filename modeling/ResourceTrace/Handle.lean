import ResourceTrace.Text.Numeral

set_option autoImplicit false

namespace ResourceTrace

structure Handle where
  address : Nat
  deriving DecidableEq, Repr

namespace Handle

/-- Stands for "no resource": a failed allocation, or no previous pointer. -/
def null : Handle := ⟨0⟩

def isNull (h : Handle) : Bool := h.address == 0

def text (h : Handle) : String := Numeral.hex h.address

@[simp] theorem isNull_iff (h : Handle) : h.isNull = true ↔ h = null := by
  cases h; simp [isNull, null]

end Handle

end ResourceTrace
