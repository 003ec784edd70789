import Mathlib.Data.List.Chain
import ResourceTrace.Pattern.Interpreter
import ResourceTrace.Proofs.Dump.Report

set_option autoImplicit false

namespace ResourceTrace

structure Outcome where
  total : Nat
  emitted : Bool
  deriving DecidableEq, Repr

namespace Outcome

def emittedTotals (os : List Outcome) : List Nat := (os.filter emitted).map total

/-- The total of the last emitted report, or what it was before any. -/
def lastTotal (initial : Nat) (os : List Outcome) : Nat := (emittedTotals os).getLastD initial

@[simp] theorem emittedTotals_nil : emittedTotals [] = [] := rfl

theorem emittedTotals_cons (o : Outcome) (os : List Outcome) :
    emittedTotals (o :: os) =
      if o.emitted then o.total :: emittedTotals os else emittedTotals os := by
  cases h : o.emitted <;> simp [emittedTotals, h]

theorem lastTotal_cons (initial : Nat) (o : Outcome) (os : List Outcome) :
    lastTotal initial (o :: os) = lastTotal (if o.emitted then o.total else initial) os := by
  rw [lastTotal, emittedTotals_cons]
  split
  · rw [List.getLastD_cons]
    rfl
  · rfl

theorem lastTotal_concat (initial total : Nat) (os : List Outcome) :
    lastTotal initial (os ++ [⟨total, true⟩]) = total := by
  simp [lastTotal, emittedTotals]

end Outcome

theorem DumpFilter.increase_of_shouldDump {f : DumpFilter} {total lastTotal : Nat}
    (h : f.shouldDump total lastTotal = true) (hgate : 0 ≤ f.minIncrease) :
    (lastTotal : Int) + f.minIncrease ≤ total := by
  rw [shouldDump] at h
  split at h
  · exact Bool.noConfusion h
  · split at h
    · exact Bool.noConfusion h
    · simpa [hgate] using h

namespace Report

open Outcome

structure Attempt where
  {δ : Type}
  ledger : Ledger δ
  filter : DumpFilter
  now : Moment
  zone : Zone

section

variable [PatternEngine]

namespace Attempt

def report (a : Attempt) (throttle : Nat) : Report := make a.ledger a.filter throttle a.now a.zone

def outcome (a : Attempt) (throttle : Nat) : Outcome :=
  ⟨a.ledger.total, (a.report throttle).emitted⟩

def Emits (a : Attempt) (throttle : Nat) : Prop :=
  a.filter.shouldDump a.ledger.total throttle = true ∧
    ∃ r ∈ a.ledger.records.values, a.filter.Accepts a.now r

theorem accepted_ne_nil_iff (a : Attempt) :
    accepted a.ledger a.filter a.now ≠ [] ↔
      ∃ r ∈ a.ledger.records.values, a.filter.Accepts a.now r := by
  simp only [accepted, ne_eq, List.filter_eq_nil_iff, DumpFilter.isSome_accepts?_iff,
    a.ledger.byAge_perm.mem_iff, not_forall, not_not, exists_prop]

theorem report_of_emits {a : Attempt} {throttle : Nat} (h : a.Emits throttle) :
    (a.report throttle).emitted = true ∧ (a.report throttle).throttle = a.ledger.total := by
  rw [Emits, ← accepted_ne_nil_iff] at h
  rw [report, make_eq]
  simp only [h, and_self, ne_eq, not_false_eq_true, if_true]

theorem report_of_not_emits {a : Attempt} {throttle : Nat} (h : ¬a.Emits throttle) :
    a.report throttle = silent throttle := by
  rw [Emits, ← accepted_ne_nil_iff] at h
  rw [report, make_eq]
  exact if_neg h

theorem emitted_iff (a : Attempt) (throttle : Nat) :
    (a.report throttle).emitted = true ↔ a.Emits throttle := by
  by_cases h : a.Emits throttle
  · simp [h, (report_of_emits h).1]
  · simp [h, report_of_not_emits h, silent]

theorem throttle_report (a : Attempt) (throttle : Nat) :
    (a.report throttle).throttle =
      if (a.report throttle).emitted then a.ledger.total else throttle := by
  by_cases h : a.Emits throttle
  · obtain ⟨hemitted, hthrottle⟩ := report_of_emits h
    simp [hemitted, hthrottle]
  · simp [report_of_not_emits h, silent]

theorem increase_of_emitted {a : Attempt} {throttle d : Nat}
    (h : (a.report throttle).emitted = true) (hd : (d : Int) ≤ a.filter.minIncrease) :
    throttle + d ≤ a.ledger.total := by
  have hgate := DumpFilter.increase_of_shouldDump ((a.emitted_iff throttle).mp h).1 (by omega)
  omega

end Attempt

/-- The reports of some attempts in turn, each on the throttle that the one before it left. -/
def outcomes (throttle : Nat) : List Attempt → List Outcome
  | [] => []
  | a :: attempts => a.outcome throttle :: outcomes (a.report throttle).throttle attempts

def throttleAfter (throttle : Nat) (attempts : List Attempt) : Nat :=
  attempts.foldl (fun t a => (a.report t).throttle) throttle

theorem throttleAfter_eq (throttle : Nat) (attempts : List Attempt) :
    throttleAfter throttle attempts = lastTotal throttle (outcomes throttle attempts) := by
  induction attempts generalizing throttle with
  | nil => rfl
  | cons a attempts ih =>
    rw [outcomes, lastTotal_cons, throttleAfter, List.foldl_cons, ← throttleAfter, ih,
      Attempt.throttle_report]
    rfl

theorem mem_emittedTotals {throttle total : Nat} {attempts : List Attempt}
    (h : total ∈ emittedTotals (outcomes throttle attempts)) :
    ∃ a ∈ attempts, a.ledger.total = total := by
  induction attempts generalizing throttle with
  | nil => simp [outcomes] at h
  | cons a attempts ih =>
    have hcases : total = a.ledger.total ∨
        total ∈ emittedTotals (outcomes (a.report throttle).throttle attempts) := by
      rw [outcomes, emittedTotals_cons] at h
      split at h
      · exact List.mem_cons.mp h
      · exact .inr h
    rcases hcases with rfl | hrest
    · exact ⟨a, List.mem_cons_self, rfl⟩
    · obtain ⟨b, hb, htotal⟩ := ih hrest
      exact ⟨b, List.mem_cons_of_mem a hb, htotal⟩

theorem emitted_outcomes_iff {throttle : Nat} {attempts : List Attempt} {j : Nat} {a : Attempt}
    {o : Outcome} (ha : attempts[j]? = some a) (ho : (outcomes throttle attempts)[j]? = some o) :
    o.total = a.ledger.total ∧
      (o.emitted = true ↔ a.Emits (lastTotal throttle ((outcomes throttle attempts).take j))) := by
  induction attempts generalizing throttle j with
  | nil => simp at ha
  | cons b attempts ih =>
    cases j with
    | zero =>
      obtain rfl : b = a := by simpa using ha
      obtain rfl : b.outcome throttle = o := by simpa [outcomes] using ho
      exact ⟨rfl, b.emitted_iff throttle⟩
    | succ j =>
      have hlater := ih (by simpa using ha) (by simpa [outcomes] using ho)
      rw [outcomes, List.take_succ_cons, lastTotal_cons, Attempt.outcome]
      rwa [Attempt.throttle_report] at hlater ⊢

variable {d : Nat}

/-- Each emitted total exceeds the throttle that it met, which is the total emitted before it. -/
theorem isChain_emittedTotals {attempts : List Attempt}
    (h : ∀ a ∈ attempts, (d : Int) ≤ a.filter.minIncrease) (throttle : Nat) :
    (throttle :: emittedTotals (outcomes throttle attempts)).IsChain fun s t => s + d ≤ t := by
  induction attempts generalizing throttle with
  | nil => exact .singleton throttle
  | cons a attempts ih =>
    rw [List.forall_mem_cons] at h
    rw [outcomes, emittedTotals_cons, Attempt.throttle_report]
    by_cases hemitted : (a.report throttle).emitted = true
    · have hincrease := Attempt.increase_of_emitted hemitted h.1
      simp only [Attempt.outcome, hemitted, if_true]
      exact List.isChain_cons_cons.mpr ⟨hincrease, ih h.2 a.ledger.total⟩
    · simp only [Attempt.outcome, hemitted]
      exact ih h.2 throttle

omit [PatternEngine] in
theorem le_getElem_of_isChain {totals : List Nat} {start : Nat}
    (h : (start :: totals).IsChain fun s t => s + d ≤ t) (k : Nat) (hk : k < totals.length) :
    start + (k + 1) * d ≤ totals[k] := by
  induction totals generalizing start k with
  | nil => simp at hk
  | cons t totals ih =>
    obtain ⟨hfirst, hrest⟩ := List.isChain_cons_cons.mp h
    cases k with
    | zero => simpa using hfirst
    | succ k =>
      have hlater := ih hrest k (by simpa using hk)
      have hmul : (k + 1 + 1) * d = (k + 1) * d + d := Nat.succ_mul (k + 1) d
      simp only [List.getElem_cons_succ]
      omega

/-- With a gate of at least `d`, a run of reports on a fresh throttle emits totals that climb by `d`
from each to the next, so that the `k`-th is at least `k * d` and none above `most` allow more than
`most / d` reports. At every moment the throttle is the total of the last report that was emitted.
-/
theorem emitted_totals_climb (d : Nat) (hd : 0 < d) (attempts : List Attempt)
    (h : ∀ a ∈ attempts, (d : Int) ≤ a.filter.minIncrease) :
    let totals := emittedTotals (outcomes 0 attempts)
    (totals.IsChain fun s t => s + d ≤ t) ∧
      (∀ k (hk : k < totals.length), (k + 1) * d ≤ totals[k]) ∧
      (∀ most, (∀ a ∈ attempts, a.ledger.total ≤ most) → totals.length ≤ most / d) ∧
      ∀ earlier, earlier <+: attempts →
        throttleAfter 0 earlier = (emittedTotals (outcomes 0 earlier)).getLastD 0 := by
  intro totals
  have hchain := isChain_emittedTotals h 0
  have hleast : ∀ k (hk : k < totals.length), (k + 1) * d ≤ totals[k] := by
    intro k hk
    simpa using le_getElem_of_isChain hchain k hk
  refine ⟨hchain.tail, hleast, fun most hmost => ?_, fun earlier _ => throttleAfter_eq 0 earlier⟩
  rw [Nat.le_div_iff_mul_le hd]
  cases hn : totals.length with
  | zero => simp
  | succ n =>
    have hlast : n < totals.length := by omega
    obtain ⟨a, ha, htotal⟩ := mem_emittedTotals (List.getElem_mem hlast)
    exact Nat.le_trans (hleast n hlast) (htotal ▸ hmost a ha)

end

def everyFive : DumpFilter := ⟨16, 0, 0, 5, 0, 0, 100, none, none⟩

/-- Ledgers of one block each, which grows, shrinks and grows again. -/
def growing : List Attempt :=
  [4, 7, 9, 3, 13].map fun size => 
    ⟨Ledger.insert {} ⟨⟨16⟩, size, ⟨0⟩, [], ()⟩, everyFive, ⟨0⟩, Zone.utc⟩

theorem emitted_totals_climb_growing :
    0 < 5 ∧ (∀ a ∈ growing, ((5 : Nat) : Int) ≤ a.filter.minIncrease) ∧
      emittedTotals (outcomes 0 growing) = [7, 13] ∧ throttleAfter 0 growing = 13 := by
  have hd : 0 < 5 := by decide
  have h : ∀ a ∈ growing, ((5 : Nat) : Int) ≤ a.filter.minIncrease := by decide
  obtain ⟨_, _, _, hthrottle⟩ := emitted_totals_climb 5 hd growing h
  have htotals : emittedTotals (outcomes 0 growing) = [7, 13] := by decide +kernel
  refine ⟨hd, h, htotals, ?_⟩
  rw [hthrottle growing (List.prefix_refl _), htotals]
  rfl

end Report

end ResourceTrace
