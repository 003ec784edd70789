import ResourceTrace.Dump.Schedule

set_option autoImplicit false

namespace ResourceTrace.Schedule

variable (s : Schedule) (name : String)

def numberLine (number : Nat) : String := s!"{name} dump {number} of {s.count}."

/-- Attempts that leave dumps to make, after so many emitted ones: each is followed by the line
of the next number if it emits, and then by a sleep. -/
def rounds : Nat → List Bool → List Event
  | _, [] => []
  | made, true :: outcomes =>
    .attempt true :: .line (numberLine s name (made + 1)) :: .sleep s.interval ::
      rounds (made + 1) outcomes
  | made, false :: outcomes => .attempt false :: .sleep s.interval :: rounds made outcomes

def ending : List Event :=
  if s.exitAfterLast then [.line (closingLine name), .exit 0] else []

variable {s}

theorem progressLine_eq {made left : Nat} (h : made + left = s.count) :
    progressLine name s left = numberLine s name made := by
  have hmade : s.count - left = made := by omega
  rw [progressLine, hmade, numberLine]

theorem runFrom_silent {left : Nat} (hleft : 0 < left) (outcomes : List Bool) :
    s.runFrom name left (false :: outcomes) =
      let r := s.runFrom name left outcomes
      { r with events := .attempt false :: .sleep s.interval :: r.events } := by
  have hnext : s.afterAttempt name left false = ([], .sleep left) := by simp [afterAttempt, hleft]
  rw [runFrom, hnext]
  rfl

theorem runFrom_emitted {made left : Nat} (h : made + 1 + left = s.count) (hleft : 0 < left)
    (outcomes : List Bool) :
    s.runFrom name (left + 1) (true :: outcomes) =
      let r := s.runFrom name left outcomes
      { r with
        events := .attempt true :: .line (numberLine s name (made + 1)) :: .sleep s.interval ::
          r.events } := by
  have hnext : s.afterAttempt name (left + 1) true =
      ([numberLine s name (made + 1)], .sleep left) := by
    simp [afterAttempt, hleft, progressLine_eq name h]
  rw [runFrom, hnext]
  rfl

theorem runFrom_last (later : List Bool) :
    s.runFrom name 1 (true :: later) =
      ⟨.finished, .attempt true :: .line (numberLine s name s.count) :: s.ending name⟩ := by
  have hline : progressLine name s 0 = numberLine s name s.count := progressLine_eq name rfl
  cases hexit : s.exitAfterLast <;> simp [runFrom, afterAttempt, turn, ending, hline, hexit]

theorem runFrom_append {made left : Nat} {outcomes : List Bool} (h : made + left = s.count)
    (hlt : outcomes.count true < left) (later : List Bool) :
    s.runFrom name left (outcomes ++ later) =
      let r := s.runFrom name (left - outcomes.count true) later
      { r with events := s.rounds name made outcomes ++ r.events } := by
  -- The dumps made and those left add up to the number that is wanted, attempt by attempt.
  induction outcomes generalizing made left with
  | nil => rfl
  | cons emitted outcomes ih =>
    cases emitted with
    | false =>
      rw [List.count_cons_of_ne (by decide)] at hlt ⊢
      rw [List.cons_append, runFrom_silent name (by omega), ih h hlt]
      rfl
    | true =>
      rw [List.count_cons_self] at hlt ⊢
      obtain ⟨left, rfl⟩ : ∃ n, left = n + 1 := ⟨left - 1, by omega⟩
      have hnext : made + 1 + left = s.count := by omega
      rw [List.cons_append, runFrom_emitted name hnext (by omega), ih hnext (by omega),
        Nat.add_sub_add_right]
      rfl

theorem run_append {outcomes : List Bool} (h : outcomes.count true < s.count) (later : List Bool) :
    s.run name (outcomes ++ later) =
      let r := s.runFrom name (s.count - outcomes.count true) later
      { r with events := .sleep s.delay :: s.rounds name 0 outcomes ++ r.events } := by
  have henabled : s.isEnabled = true := by simp [isEnabled]; omega
  simp only [run, henabled, if_true, runFrom_append name (Nat.zero_add s.count) h later,
    List.cons_append]

section

variable (s) (made : Nat) (outcomes : List Bool)

theorem countP_rounds : (s.rounds name made outcomes).countP Event.isAttempt = outcomes.length := by
  induction outcomes generalizing made with
  | nil => rfl
  | cons emitted outcomes ih => cases emitted <;> simp [rounds, List.countP_cons, Event.isAttempt, ih]

theorem secs_rounds :
    (s.rounds name made outcomes).filterMap Event.secs? =
      List.replicate outcomes.length s.interval := by
  induction outcomes generalizing made with
  | nil => rfl
  | cons emitted outcomes ih =>
    cases emitted <;> simp [rounds, List.filterMap_cons, Event.secs?, ih, List.replicate_succ]

theorem texts_rounds :
    (s.rounds name made outcomes).filterMap Event.text? =
      (List.range' (made + 1) (outcomes.count true)).map (numberLine s name) := by
  induction outcomes generalizing made with
  | nil => rfl
  | cons emitted outcomes ih =>
    cases emitted <;> simp [rounds, List.filterMap_cons, Event.text?, ih, List.range'_succ]

theorem codes_rounds : (s.rounds name made outcomes).filterMap Event.code? = [] := by
  induction outcomes generalizing made with
  | nil => rfl
  | cons emitted outcomes ih => cases emitted <;> simp [rounds, List.filterMap_cons, Event.code?, ih]

end

/-- As long as too few outcomes emit, a course stops where they end, and goes on from there with
any that follow; the dump that completes the number ends it, whatever would follow. -/
theorem course_of_outcomes (s : Schedule) (name : String) (outcomes : List Bool) :
    (outcomes.count true < s.count →
      let r := s.run name outcomes
      r.status = .stopped ∧ r.attempts = outcomes.length ∧
        r.sleeps = s.delay :: List.replicate outcomes.length s.interval ∧
        r.lines = (List.range' 1 (outcomes.count true)).map (numberLine s name) ∧
        r.exitCodes = [] ∧ r.events = .sleep s.delay :: s.rounds name 0 outcomes ∧
        ∀ later, r.events <+: (s.run name (outcomes ++ later)).events) ∧
    ∀ later, outcomes.count true + 1 = s.count →
      let r := s.run name (outcomes ++ true :: later)
      r.status = .finished ∧ r.attempts = outcomes.length + 1 ∧
        r.sleeps = s.delay :: List.replicate outcomes.length s.interval ∧
        r.lines = (List.range' 1 s.count).map (numberLine s name) ++
          (if s.exitAfterLast then [closingLine name] else []) ∧
        r.exitCodes = (if s.exitAfterLast then [0] else []) ∧
        r.events = .sleep s.delay :: s.rounds name 0 outcomes ++
          .attempt true :: .line (numberLine s name s.count) ::
            (if s.exitAfterLast then [.line (closingLine name), .exit 0] else []) := by
  constructor
  · intro hlt r
    have hr : r = ⟨.stopped, .sleep s.delay :: s.rounds name 0 outcomes⟩ := by
      simpa [runFrom] using run_append name hlt []
    have hlater : ∀ later, r.events <+: (s.run name (outcomes ++ later)).events := by
      intro later
      rw [hr, run_append name hlt later]
      exact List.prefix_append _ _
    refine ⟨by rw [hr], ?_, ?_, ?_, ?_, by rw [hr], hlater⟩
    · simp [hr, Run.attempts, Event.isAttempt, countP_rounds]
    · simp [hr, Run.sleeps, Event.secs?, secs_rounds]
    · simp [hr, Run.lines, List.filterMap_cons, Event.text?, texts_rounds]
    · rw [hr, Run.exitCodes, List.filterMap_cons]
      exact codes_rounds s name 0 outcomes
  · intro later hlast r
    have hone : s.count - outcomes.count true = 1 := by omega
    have hr : r = ⟨.finished, .sleep s.delay :: s.rounds name 0 outcomes ++
        .attempt true :: .line (numberLine s name s.count) :: s.ending name⟩ := by
      have hlt : outcomes.count true < s.count := by omega
      have hrun := run_append name hlt (true :: later)
      rwa [hone, runFrom_last] at hrun
    have hnumbers : List.range' 1 s.count = List.range' 1 (outcomes.count true) ++ [s.count] := by
      rw [← hlast, List.range'_concat]
      simp [Nat.add_comm]
    refine ⟨by rw [hr], ?_, ?_, ?_, ?_, by rw [hr]; rfl⟩
    · cases hexit : s.exitAfterLast <;>
        simp [hr, Run.attempts, List.countP_cons, Event.isAttempt, countP_rounds, ending, hexit]
    · cases hexit : s.exitAfterLast <;>
        simp [hr, Run.sleeps, List.filterMap_cons, Event.secs?, secs_rounds, ending, hexit]
    · cases hexit : s.exitAfterLast <;>
        simp [hr, Run.lines, List.filterMap_cons, Event.text?, texts_rounds, hnumbers, ending, hexit]
    · cases hexit : s.exitAfterLast <;>
        simp [hr, Run.exitCodes, List.filterMap_cons, Event.code?, codes_rounds, ending, hexit,
          -List.filterMap_eq_nil_iff]

/-- Of three attempts the second stays silent, so two dumps take all three. -/
theorem course_of_outcomes_skipped :
    let s : Schedule := ⟨2, 1, 10, true⟩
    [true, false].count true < s.count ∧ [true, false].count true + 1 = s.count ∧
      (s.run "Test" [true, false]).status = .stopped ∧
      (s.run "Test" [true, false]).lines = ["Test dump 1 of 2."] ∧
      (s.run "Test" [true, false, true]).attempts = 3 ∧
      (s.run "Test" [true, false, true]).sleeps = [10, 1, 1] ∧
      (s.run "Test" [true, false, true]).lines =
        ["Test dump 1 of 2.", "Test dump 2 of 2.", "Test dumps finished. Exiting."] ∧
      (s.run "Test" [true, false, true]).exitCodes = [0] := by
  intro s
  have hlt : [true, false].count true < s.count := by decide
  have hlast : [true, false].count true + 1 = s.count := by decide
  obtain ⟨hstopped, hfinished⟩ := course_of_outcomes s "Test" [true, false]
  obtain ⟨hstatus, -, -, hone, -⟩ := hstopped hlt
  obtain ⟨-, hattempts, hsleeps, hlines, hcodes, -⟩ := hfinished [] hlast
  exact ⟨hlt, hlast, hstatus, hone.trans (by decide +kernel), hattempts, hsleeps,
    hlines.trans (by decide +kernel), hcodes⟩

end ResourceTrace.Schedule
