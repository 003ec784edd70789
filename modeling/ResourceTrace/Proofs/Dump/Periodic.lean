import ResourceTrace.Agent.Dumps
import ResourceTrace.Pattern.Interpreter
import ResourceTrace.Proofs.Dump.Throttle
import ResourceTrace.Proofs.Output.Enabled

set_option autoImplicit false

namespace ResourceTrace

open Outcome

def Dumper.leftAfter (d : Dumper) (emitted : Bool) : Nat :=
  if emitted then d.left - 1 else d.left

theorem Dumper.leftAfter_add {d : Dumper} (hleft : 0 < d.left) (emitted : Bool) :
    (d.leftAfter emitted + if emitted then 1 else 0) = d.left := by
  cases emitted with
  | false => rfl
  | true => exact Nat.sub_add_cancel hleft

theorem Dumper.afterAttempt_eq (d : Dumper) (emitted : Bool) :
    ∃ lines, d.schedule.afterAttempt d.name d.left emitted =
      (lines, if 0 < d.leftAfter emitted then .sleep (d.leftAfter emitted)
        else .done d.schedule.exitAfterLast) := by
  refine ⟨_, Prod.ext rfl ?_⟩
  rw [Schedule.afterAttempt, ← leftAfter]
  split
  · rfl
  · cases d.schedule.exitAfterLast <;> rfl

namespace Agent

theorem isEnabled_resolve (a b : Agent) (o : OptionLine) :
    (a.resolve o).1.isEnabled = (b.resolve o).1.isEnabled := by
  simp only [resolve, Output.resolve, Output.isEnabled_resolveDest]

theorem dumpers_arm (a : Agent) (kind : DumpKind) (name : String) {switch : Switch} {s : Schedule}
    (hon : switch.isOn = true) (hs : (Schedule.read switch.options).value = s)
    (henabled : s.isEnabled = true) :
    (a.arm kind name switch).dumpers =
      a.dumpers ++ [⟨kind, name, s, switch.options, (a.resolve switch.options).1, s.count,
        a.now.after s.delay⟩] := by
  subst hs
  simp only [arm, hon, henabled]
  rfl

theorem of_arm {a : Agent} {kind : DumpKind} {name : String} {switch : Switch} {d : Dumper}
    (h : (a.arm kind name switch).dumpers = a.dumpers ++ [d]) :
    d.kind = kind ∧ 0 < d.left ∧ d.left = d.schedule.count ∧ d.sink = (a.resolve d.options).1 := by
  have hkept : a.dumpers ≠ a.dumpers ++ [d] := by simp
  rw [arm] at h
  split at h
  · exact absurd h hkept
  · dsimp only at h
    split at h
    next henabled =>
      obtain rfl := List.singleton_injective (List.append_cancel_left h)
      exact ⟨rfl, of_decide_eq_true henabled, rfl, rfl⟩
    next => exact absurd h hkept

theorem allocations_callExit (a : Agent) (code : Nat) :
    (a.callExit code).allocations = a.allocations := by
  rw [callExit]
  split <;> rfl

def reported (a : Agent) (f : DumpFilter) : Report.Attempt :=
  ⟨a.allocations.ledger, f, a.now, a.output.host.zone⟩

variable [PatternEngine]

theorem dumpAllocations_of_enabled {a : Agent} {o : OptionLine} {f : DumpFilter}
    {notes : List String} (henabled : (a.resolve o).1.isEnabled = true)
    (hfilter : DumpFilter.read o = .ok ⟨f, notes⟩) :
    let r := (a.reported f).report a.allocations.throttle
    let dumped := a.dumpAllocations o
    dumped.1 = r.emitted ∧ dumped.2.allocations.throttle = r.throttle ∧
      dumped.2.ended = a.ended := by
  intro r dumped
  obtain ⟨hemitted, hthrottle⟩ := Report.make_zone a.allocations.ledger f
    a.allocations.throttle a.now ((a.resolve o).2.complainAll notes).output.host.zone
    a.output.host.zone
  simp only [dumped, dumpAllocations, henabled, hfilter]
  exact ⟨hemitted, hthrottle, rfl⟩

theorem dumpAllocations_of_disabled {a : Agent} {o : OptionLine}
    (hdisabled : (a.resolve o).1.isEnabled = false) :
    a.dumpAllocations o = (false, (a.resolve o).2) := by
  simp only [dumpAllocations, hdisabled]
  rfl

theorem attempt_of_alive {a dumped : Agent} {d : Dumper} {emitted : Bool}
    (hdump : a.dump d.kind d.options = (emitted, dumped)) (halive : dumped.ended = none) :
    ∃ a', a'.allocations = dumped.allocations ∧
      if 0 < d.leftAfter emitted then
        ∃ wakes, a.attempt d = (some { d with left := d.leftAfter emitted, wakes }, a')
      else a.attempt d = (none, a') := by
  have hended : dumped.ended.isSome = false := by rw [halive]; rfl
  obtain ⟨lines, hnext⟩ := d.afterAttempt_eq emitted
  simp only [attempt, hdump, hended, hnext]
  split
  · refine ⟨_, ?_, _, rfl⟩
    rfl
  · refine ⟨_, ?_, rfl⟩
    split
    · exact allocations_callExit _ 0
    · rfl

/-- The agent as others left it, with the throttle that none of them touched. -/
def onThrottle (a : Agent) (throttle : Nat) : Agent :=
  { a with allocations := { a.allocations with throttle } }

end Agent

structure Course where
  outcomes : List Outcome
  throttle : Nat
  again : Option Dumper
  deriving DecidableEq, Repr

def Course.cons (o : Outcome) (c : Course) : Course := { c with outcomes := o :: c.outcomes }

/-- Lets a dumper attempt its dumps on the agents that it finds when it wakes. -/
def Dumper.course [PatternEngine] (d : Dumper) (throttle : Nat) : List Agent → Course
  | [] => ⟨[], throttle, some d⟩
  | found :: later =>
    let a := found.onThrottle throttle
    let outcome : Outcome := ⟨a.allocations.ledger.total, (a.dump d.kind d.options).1⟩
    match a.attempt d with
    | (none, a) => ⟨[outcome], a.allocations.throttle, none⟩
    | (some d, a) => (d.course a.allocations.throttle later).cons outcome

structure Dumper.Dumps [PatternEngine] (d : Dumper) (f : DumpFilter) : Prop where
  kind : d.kind = .allocations
  enabled : ∀ a : Agent, (a.resolve d.options).1.isEnabled = true
  filter : ∃ notes, DumpFilter.read d.options = .ok ⟨f, notes⟩

namespace Course

def left (c : Course) : Nat := c.again.elim 0 Dumper.left

variable [PatternEngine]

/-- A course on some throttle with so many dumps to make, by attempts that emit if they can. -/
structure Greedy (c : Course) (throttle count : Nat) (attempts : List Report.Attempt) : Prop where
  outcomes : c.outcomes <+: Report.outcomes throttle attempts
  throttle : c.throttle = lastTotal throttle c.outcomes
  balance : c.left + c.outcomes.countP Outcome.emitted = count
  open_end : ∀ d, c.again = some d → 0 < d.left ∧ c.outcomes.length = attempts.length
  last : c.again = none → ∃ earlier total, c.outcomes = earlier ++ [⟨total, true⟩]

variable {throttle : Nat} {a : Report.Attempt} {attempts : List Report.Attempt}

theorem Greedy.cons {c : Course} {count : Nat}
    (h : c.Greedy (a.report throttle).throttle count attempts) :
    (c.cons (a.outcome throttle)).Greedy throttle
      (count + if (a.report throttle).emitted then 1 else 0) (a :: attempts) where
  outcomes := List.cons_prefix_cons.mpr ⟨rfl, h.outcomes⟩
  throttle := by
    rw [Course.cons, lastTotal_cons, h.throttle, Report.Attempt.throttle_report]
    rfl
  balance := by
    rw [Course.cons, List.countP_cons, ← h.balance, Nat.add_assoc]
    rfl
  open_end d hd := by simpa [Course.cons] using h.open_end d hd
  last hnone := by
    obtain ⟨earlier, total, hlast⟩ := h.last hnone
    exact ⟨_ :: earlier, total, congrArg (_ :: ·) hlast⟩

theorem Greedy.of_last (h : (a.report throttle).emitted = true) :
    Greedy ⟨[a.outcome throttle], (a.report throttle).throttle, none⟩ throttle 1
      (a :: attempts) where
  outcomes := List.cons_prefix_cons.mpr ⟨rfl, List.nil_prefix⟩
  throttle := by
    rw [lastTotal_cons, Report.Attempt.throttle_report]
    rfl
  balance := by simp [left, Report.Attempt.outcome, h]
  open_end d hd := by simp at hd
  last _ := ⟨[], a.ledger.total, by simp [Report.Attempt.outcome, h]⟩

theorem Greedy.emitted_iff {c : Course} {count j : Nat} {o : Outcome}
    (h : c.Greedy throttle count attempts) (ha : attempts[j]? = some a)
    (ho : c.outcomes[j]? = some o) :
    o.total = a.ledger.total ∧
      (o.emitted = true ↔
        a.filter.shouldDump o.total (lastTotal throttle (c.outcomes.take j)) = true ∧
          ∃ r ∈ a.ledger.records.values, a.filter.Accepts a.now r) := by
  obtain ⟨rest, hrest⟩ := h.outcomes
  obtain ⟨hj, -⟩ := List.getElem?_eq_some_iff.mp ho
  have ho' : (Report.outcomes throttle attempts)[j]? = some o := by
    rw [← hrest, List.getElem?_append_left hj, ho]
  have htake : (Report.outcomes throttle attempts).take j = c.outcomes.take j := by
    rw [← hrest, List.take_append_of_le_length (Nat.le_of_lt hj)]
  obtain ⟨htotal, hemitted⟩ := Report.emitted_outcomes_iff ha ho'
  rw [htake, Report.Attempt.Emits, ← htotal] at hemitted
  exact ⟨htotal, hemitted⟩

end Course

namespace Dumper

section

variable [PatternEngine] {d : Dumper} {f : DumpFilter}

theorem Dumps.attempt {a : Agent} (hd : d.Dumps f) (halive : a.ended = none) {r : Report}
    (hr : (a.reported f).report a.allocations.throttle = r) :
    (a.dump d.kind d.options).1 = r.emitted ∧
      ∃ a', a'.allocations.throttle = r.throttle ∧
        if 0 < d.leftAfter r.emitted then
          ∃ wakes, a.attempt d = (some { d with left := d.leftAfter r.emitted, wakes }, a')
        else a.attempt d = (none, a') := by
  obtain ⟨notes, hfilter⟩ := hd.filter
  have hdump : a.dump d.kind d.options = a.dumpAllocations d.options := by rw [hd.kind]; rfl
  obtain ⟨hemitted, hthrottle, hended⟩ := Agent.dumpAllocations_of_enabled (hd.enabled a) hfilter
  rw [hr] at hemitted hthrottle
  have hpair : a.dump d.kind d.options = (r.emitted, (a.dumpAllocations d.options).2) :=
    hdump.trans (Prod.ext hemitted rfl)
  obtain ⟨a', hallocations, hattempt⟩ := Agent.attempt_of_alive hpair (hended.trans halive)
  exact ⟨congrArg Prod.fst hpair, a', by rw [hallocations, hthrottle], hattempt⟩

theorem Dumps.course_cons {a : Agent} (hd : d.Dumps f) (halive : a.ended = none) (throttle : Nat)
    (later : List Agent) {r : Report} (hr : (a.reported f).report throttle = r) :
    if 0 < d.leftAfter r.emitted then
      ∃ wakes, d.course throttle (a :: later) =
        (course { d with left := d.leftAfter r.emitted, wakes } r.throttle later).cons
          ((a.reported f).outcome throttle)
    else d.course throttle (a :: later) =
      ⟨[(a.reported f).outcome throttle], r.throttle, none⟩ := by
  obtain ⟨hemitted, a', hthrottle, hattempt⟩ := hd.attempt (a := a.onThrottle throttle) halive hr
  have houtcome : (a.reported f).outcome throttle =
      ⟨a.allocations.ledger.total, ((a.onThrottle throttle).dump d.kind d.options).1⟩ := by
    rw [Report.Attempt.outcome, hr, hemitted]
    rfl
  rw [houtcome]
  split
  next hleft =>
    rw [if_pos hleft] at hattempt
    obtain ⟨wakes, heq⟩ := hattempt
    refine ⟨wakes, ?_⟩
    rw [course, heq, ← hthrottle]
    rfl
  next hleft =>
    rw [if_neg hleft] at hattempt
    rw [course, hattempt, ← hthrottle]
    rfl

theorem course_greedy (hd : d.Dumps f) (hleft : 0 < d.left) {found : List Agent}
    (halive : ∀ a ∈ found, a.ended = none) (throttle : Nat) :
    (d.course throttle found).Greedy throttle d.left (found.map fun a => a.reported f) := by
  induction found generalizing d throttle with
  | nil =>
    refine ⟨List.prefix_rfl, rfl, rfl, fun d' hd' => ?_, fun hnone => ?_⟩
    · obtain rfl : d = d' := Option.some.inj hd'
      exact ⟨hleft, rfl⟩
    · cases hnone
  | cons a later ih =>
    rw [List.forall_mem_cons] at halive
    have hcourse := hd.course_cons halive.1 throttle later rfl
    have hcount := leftAfter_add hleft ((a.reported f).report throttle).emitted
    split at hcourse
    next hagain =>
      -- The dumper that sleeps again has fewer dumps left but the same kind and options.
      obtain ⟨wakes, heq⟩ := hcourse
      have hrest := ih (d := { d with left := d.leftAfter _, wakes })
        ⟨hd.kind, hd.enabled, hd.filter⟩ hagain halive.2 ((a.reported f).report throttle).throttle
      rw [heq, ← hcount]
      exact hrest.cons
    next hdone =>
      -- Dumps were left before the attempt, so it was the last one that was emitted.
      have hnone : d.leftAfter ((a.reported f).report throttle).emitted = 0 := by omega
      have hemitted : ((a.reported f).report throttle).emitted = true := by
        by_contra h
        rw [hnone, if_neg h] at hcount
        omega
      rw [hnone, hemitted] at hcount
      rw [hcourse, ← hcount]
      exact .of_last hemitted

theorem course_of_disabled (hkind : d.kind = .allocations)
    (hdisabled : ∀ a : Agent, (a.resolve d.options).1.isEnabled = false) (hleft : 0 < d.left)
    {found : List Agent} (halive : ∀ a ∈ found, a.ended = none) (throttle : Nat) :
    ∃ wakes, d.course throttle found =
      ⟨found.map fun a => ⟨a.allocations.ledger.total, false⟩, throttle, some { d with wakes }⟩ := by
  induction found generalizing d with
  | nil => exact ⟨d.wakes, rfl⟩
  | cons a later ih =>
    rw [List.forall_mem_cons] at halive
    have hdump : (a.onThrottle throttle).dump d.kind d.options =
        (false, ((a.onThrottle throttle).resolve d.options).2) := by
      rw [hkind]
      exact Agent.dumpAllocations_of_disabled (hdisabled _)
    obtain ⟨a', hallocations, hattempt⟩ := Agent.attempt_of_alive hdump halive.1
    rw [if_pos (show 0 < d.leftAfter false from hleft)] at hattempt
    obtain ⟨wakes, heq⟩ := hattempt
    obtain ⟨wakes', hrest⟩ := ih (d := { d with wakes }) hkind hdisabled hleft halive.2
    refine ⟨wakes', ?_⟩
    rw [course, heq, hdump]
    dsimp only
    rw [hallocations]
    exact congrArg (Course.cons _) hrest

theorem length_outcomes_course_le (d : Dumper) (throttle : Nat) (found : List Agent) :
    (d.course throttle found).outcomes.length ≤ found.length := by
  induction found generalizing d throttle with
  | nil => exact Nat.le_refl 0
  | cons a later ih =>
    rw [course]
    split
    · simp
    · simpa [Course.cons] using ih _ _

/-- A dumper that was armed with a filter and a sink emits greedily, attempt by attempt, until it
has made its dumps, and leaves the total of the last one as the throttle. Without a sink it goes
on for ever and never emits. -/
theorem course_is_greedy (a₀ : Agent) (name : String) (switch : Switch) (d : Dumper)
    (harmed : (a₀.arm .allocations name switch).dumpers = a₀.dumpers ++ [d])
    (throttle : Nat) (found : List Agent) (halive : ∀ a ∈ found, a.ended = none) :
    let c := d.course throttle found
    c.outcomes.length ≤ found.length ∧
    (d.sink.isEnabled = true → ∀ f notes, DumpFilter.read d.options = .ok ⟨f, notes⟩ →
      (∀ j a o, found[j]? = some a → c.outcomes[j]? = some o →
        o.total = a.allocations.ledger.total ∧
          (o.emitted = true ↔
            f.shouldDump o.total (lastTotal throttle (c.outcomes.take j)) = true ∧
              ∃ r ∈ a.allocations.ledger.records.values, f.Accepts a.now r)) ∧
      c.throttle = lastTotal throttle c.outcomes ∧
      (∀ d', c.again = some d' → c.outcomes.length = found.length ∧
        c.outcomes.countP Outcome.emitted < d.schedule.count) ∧
      (c.again = none → ∃ earlier total, c.outcomes = earlier ++ [⟨total, true⟩] ∧
        earlier.countP Outcome.emitted + 1 = d.schedule.count ∧ c.throttle = total)) ∧
    (d.sink.isEnabled = false →
      c.outcomes.length = found.length ∧ (∀ o ∈ c.outcomes, o.emitted = false) ∧
        c.again.isSome = true ∧ c.throttle = throttle) := by
  intro c
  obtain ⟨hkind, hleft, hcount, hsink⟩ := Agent.of_arm harmed
  -- Whether there is a sink is up to the line alone, and so the same at every attempt.
  have hresolve (a : Agent) : (a.resolve d.options).1.isEnabled = d.sink.isEnabled := by
    rw [hsink, Agent.isEnabled_resolve a a₀]
  refine ⟨length_outcomes_course_le d throttle found, fun henabled f notes hfilter => ?_,
    fun hdisabled => ?_⟩
  · have hd : d.Dumps f := ⟨hkind, fun a => (hresolve a).trans henabled, notes, hfilter⟩
    have hgreedy : c.Greedy throttle d.left _ := course_greedy hd hleft halive throttle
    rw [hcount] at hgreedy
    refine ⟨fun j a o ha ho => ?_, hgreedy.throttle, fun d' hd' => ?_, fun hnone => ?_⟩
    · exact hgreedy.emitted_iff (a := a.reported f) (by rw [List.getElem?_map, ha]; rfl) ho
    · obtain ⟨hpos, hlength⟩ := hgreedy.open_end d' hd'
      have hbalance := hgreedy.balance
      rw [Course.left, hd', Option.elim_some] at hbalance
      exact ⟨by rw [hlength, List.length_map], by omega⟩
    · obtain ⟨earlier, total, hlast⟩ := hgreedy.last hnone
      have hbalance := hgreedy.balance
      rw [Course.left, hnone, Option.elim_none, Nat.zero_add, hlast, List.countP_append] at hbalance
      exact ⟨earlier, total, hlast, hbalance, by rw [hgreedy.throttle, hlast, lastTotal_concat]⟩
  · obtain ⟨wakes, heq⟩ := course_of_disabled hkind (fun a => (hresolve a).trans hdisabled) hleft
      halive throttle
    have hc : c = _ := heq
    rw [hc]
    refine ⟨List.length_map _, fun o ho => ?_, rfl, rfl⟩
    obtain ⟨a, -, rfl⟩ := List.mem_map.mp ho
    rfl

end

/-- Two dumps from the tenth second on, the second when the total has tripled. -/
def tripling (dest : String) : Switch :=
  Switch.enable { command := Allocations.traceCommand }
    s!"logDest={dest},dumpCount=2,dumpInterval=1s,dumpDelay=10s,minPercentage=300,exitAfterLastDump"

def armed (dest : String) (sink : Sink) : Dumper :=
  ⟨.allocations, Allocations.periodicName, ⟨2, 1, 10, true⟩, (tripling dest).options, sink, 2,
    Moment.after ⟨0⟩ 10⟩

def growing : List Agent :=
  [8, 8, 9, 38, 50].map fun size => { now := ⟨0⟩, allocations := { Allocations.create with
    ledger := Ledger.insert {} ⟨⟨4096⟩, size, ⟨0⟩, [], ()⟩ } }

theorem course_is_greedy_growing :
    let a₀ : Agent := { now := ⟨0⟩ }
    (a₀.arm .allocations Allocations.periodicName (tripling "stdout")).dumpers =
        a₀.dumpers ++ [armed "stdout" .stdout] ∧
      (a₀.arm .allocations Allocations.periodicName (tripling "none")).dumpers =
        a₀.dumpers ++ [armed "none" .nowhere] ∧
      (∀ a ∈ growing, a.ended = none) ∧
      ((armed "stdout" .stdout).course 0 growing).outcomes =
        [⟨8, true⟩, ⟨8, false⟩, ⟨9, false⟩, ⟨38, true⟩] ∧
      ((armed "stdout" .stdout).course 0 growing).throttle = 38 ∧
      (∀ o ∈ ((armed "none" .nowhere).course 0 growing).outcomes, o.emitted = false) ∧
      ((armed "none" .nowhere).course 0 growing).again.isSome = true := by
  intro a₀
  have hout : (Schedule.read (tripling "stdout").options).value = ⟨2, 1, 10, true⟩ ∧
      (a₀.resolve (tripling "stdout").options).1 = .stdout := by decide +kernel
  have hnowhere : (Schedule.read (tripling "none").options).value = ⟨2, 1, 10, true⟩ ∧
      (a₀.resolve (tripling "none").options).1 = .nowhere := by decide +kernel
  have harmed : (a₀.arm .allocations Allocations.periodicName (tripling "stdout")).dumpers =
      a₀.dumpers ++ [armed "stdout" .stdout] := by
    rw [Agent.dumpers_arm a₀ _ _ rfl hout.1 rfl, hout.2]
    rfl
  have hidle : (a₀.arm .allocations Allocations.periodicName (tripling "none")).dumpers =
      a₀.dumpers ++ [armed "none" .nowhere] := by
    rw [Agent.dumpers_arm a₀ _ _ rfl hnowhere.1 rfl, hnowhere.2]
    rfl
  have halive : ∀ a ∈ growing, a.ended = none := by decide +kernel
  obtain ⟨-, hgreedy, -⟩ := course_is_greedy a₀ _ _ _ harmed 0 growing halive
  obtain ⟨-, hthrottle, -, -⟩ := hgreedy rfl
    ⟨16, 0, 0, -1, DumpFilter.share 300, 0, 31536000, none, none⟩ [] rfl
  obtain ⟨-, -, hvain⟩ := course_is_greedy a₀ _ _ _ hidle 0 growing halive
  obtain ⟨-, hnone, hagain, -⟩ := hvain rfl
  have houtcomes : ((armed "stdout" .stdout).course 0 growing).outcomes =
      [⟨8, true⟩, ⟨8, false⟩, ⟨9, false⟩, ⟨38, true⟩] := by decide +kernel
  refine ⟨harmed, hidle, halive, houtcomes, ?_, hnone, hagain⟩
  rw [hthrottle, houtcomes]
  rfl

end Dumper

end ResourceTrace
