import ResourceTrace.Proofs.Output.Writing

set_option autoImplicit false

namespace ResourceTrace.Output

theorem isEnabled_resolveDest (o : Output) (dest : String) :
    (o.resolveDest dest).1.isEnabled = decide (Destination.ofText dest ≠ .nowhere) := by
  rw [resolveDest]
  cases Destination.ofText dest with
  | stdout => rfl
  | stderr => rfl
  | nowhere => rfl
  | file path append =>
    dsimp only
    split
    · rfl
    · rfl
    · rw [openFile]
      split <;> rfl

theorem resolveDest_of_disabled {o : Output} {dest : String}
    (h : (o.resolveDest dest).1.isEnabled = false) : o.resolveDest dest = (.nowhere, o) := by
  rw [isEnabled_resolveDest, decide_eq_false_iff_not, Classical.not_not] at h
  simp only [resolveDest, h]

theorem resolve_of_disabled {o : Output} {options : OptionLine}
    (h : (o.resolve options).1.isEnabled = false) : o.resolve options = (.nowhere, o) :=
  resolveDest_of_disabled h

def consoleLines (o : Output) : Nat :=
  o.out.length + o.err.length + o.stdout.length + o.stderr.length

/-- The lines on the console become no fewer, and where they do not become more, the openings of
files stay and take no fewer writes. -/
structure Grows (o o' : Output) : Prop where
  console : o.consoleLines ≤ o'.consoleLines
  opened : ∀ dest opening, o.dests.get? dest = some (.opened opening) →
    o.consoleLines < o'.consoleLines ∨
      ∃ later, o'.dests.get? dest = some (.opened later) ∧ opening.writes ≤ later.writes

namespace Grows

variable {o o' o'' : Output}

theorem refl (o : Output) : Grows o o :=
  ⟨Nat.le_refl _, fun _ opening h => .inr ⟨opening, h, Nat.le_refl _⟩⟩

theorem trans (h : Grows o o') (h' : Grows o' o'') : Grows o o'' := by
  have hle := h.console
  have hle' := h'.console
  refine ⟨Nat.le_trans hle hle', fun dest opening hopened => ?_⟩
  obtain hlt | ⟨later, hlater, hwrites⟩ := h.opened dest opening hopened
  · exact .inl (by omega)
  · obtain hlt | ⟨last, hlast, hwrites'⟩ := h'.opened dest later hlater
    · exact .inl (by omega)
    · exact .inr ⟨last, hlast, Nat.le_trans hwrites hwrites'⟩

end Grows

end ResourceTrace.Output
