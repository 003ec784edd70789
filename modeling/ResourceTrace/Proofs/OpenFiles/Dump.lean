import ResourceTrace.Pattern.Interpreter
import ResourceTrace.Proofs.Dump.Independence
import ResourceTrace.Proofs.Dump.Reading
import ResourceTrace.Proofs.Output.Enabled

set_option autoImplicit false

namespace ResourceTrace

namespace OpenFiles

def printedLines (printed : List (Record FileDetail)) (count : Nat) : List String :=
  (printed.flatMap fun r =>
    s!"File '{r.detail.path}', mode '{r.detail.mode}'" :: r.stack.map fun f => "\t" ++ f.text) ++
  if printed = [] then []
  else [s!"Printed {printed.length} of {count} file(s) currently opened."]

theorem isEmpty_printedLines (printed : List (Record FileDetail)) (count : Nat) :
    (printedLines printed count).isEmpty = decide (printed = []) := by
  cases printed <;> simp [printedLines]

end OpenFiles

namespace Agent

def StillOpen (a : Agent) (h : Handle) : Prop :=
  ∀ isOpen, a.files.liveness = some isOpen → isOpen h = true

theorem get?_filesLeft (a : Agent) {l : Ledger FileDetail} (hl : l.Conserved) (h : Handle)
    (r : Record FileDetail) :
    (a.filesLeft l).get? h = some r ↔ l.get? h = some r ∧ a.StillOpen h := by
  unfold filesLeft StillOpen
  cases a.files.liveness with
  | none => simp
  | some isOpen =>
    have hget : (OpenFiles.forgetClosed l isOpen).2.get? h =
        (l.get? h).filter fun r => isOpen r.handle := l.get?_retain _ h
    rw [hget, Option.filter_eq_some_iff]
    refine and_congr_right fun hr => ?_
    simp [hl.handle_eq h r hr]

end Agent

section

variable [PatternEngine]

namespace OpenFiles

/-- The path satisfies the patterns of the line. -/
def Matches (o : OptionLine) (path : String) : Prop :=
  (∀ p, o.patternOf? "mustContain" = some p → p.isFoundIn path = true) ∧
    ∀ p, o.patternOf? "mustNotContain" = some p → p.isFoundIn path = false

instance (o : OptionLine) (path : String) : Decidable (Matches o path) :=
  decidable_of_iff
    ((o.patternOf? "mustContain").all (·.isFoundIn path) = true ∧
      (o.patternOf? "mustNotContain").all (fun p => !p.isFoundIn path) = true)
    (by simp [Matches, Option.all_eq_true])

theorem acceptsLines_iff_matches (o : OptionLine) (n : Int) (path : String) :
    (DumpFilter.readBounds o n).value.acceptsLines [path] = true ↔ Matches o path := by
  rw [DumpFilter.acceptsLines_iff, DumpFilter.mustContain_readBounds,
    DumpFilter.mustNotContain_readBounds]
  simp only [List.mem_singleton, exists_eq_left, forall_eq, Matches]

theorem dumpLines_eq (l : Ledger FileDetail) (f : DumpFilter) :
    dumpLines l f = printedLines (accepted l f) l.size := by
  by_cases h : accepted l f = []
  · simp [dumpLines, printedLines, h]
  · simp [dumpLines, printedLines, h]
    rfl

theorem mem_accepted {l : Ledger FileDetail} (hl : l.Conserved) (o : OptionLine) (n : Int)
    (r : Record FileDetail) :
    r ∈ accepted l (DumpFilter.readBounds o n).value ↔
      l.get? r.handle = some r ∧ Matches o r.detail.path := by
  rw [accepted, List.mem_filter, hl.mem_byAge, acceptsLines_iff_matches]

theorem accepted_before {l : Ledger FileDetail} (hl : l.Conserved) (f : DumpFilter) :
    (accepted l f).Pairwise Record.Before :=
  hl.byAge_before.filter _

end OpenFiles

namespace Agent

/-- A dump on any ledger of open files that operations lead to. Without a sink that takes lines it
does nothing. Otherwise exactly the files that the host reports as closed are forgotten; then the
sink has the lines of the files that are left and match, strictly in the order of age, each with its
whole stack, and behind them how many they are; the answer is whether there were any. What was wrong
with the line is on the error stream of the process. Nothing else changes. -/
theorem dumpFiles_prints_matching (ops : List (Ledger.Operation FileDetail)) (a : Agent)
    (o : OptionLine) (hframes : o.FramesReadable) :
    let l := Ledger.run {} ops
    let before := a.setFileLedger l
    let sink := (before.output.resolve o).1
    let resolved := (before.output.resolve o).2
    let dumped := before.dumpFiles o
    (sink.isEnabled = false → dumped = (false, before)) ∧
    (sink.isEnabled = true → ∃ (filter : Noted DumpFilter) (left : Ledger FileDetail)
        (printed : List (Record FileDetail)) (output : Output),
      DumpFilter.read o = .ok filter ∧
      (∀ h r, left.get? h = some r ↔ l.get? h = some r ∧ a.StillOpen h) ∧
      left.total = left.sum ∧
      (∀ r, r ∈ printed ↔ left.get? r.handle = some r ∧ OpenFiles.Matches o r.detail.path) ∧
      printed.Pairwise Record.Before ∧
      Output.Received { resolved with stderr := resolved.stderr ++ filter.notes }
        (OpenFiles.printedLines printed left.size) sink output ∧
      dumped = (decide (printed ≠ []),
        { before with output, files := { before.files with ledger := left } })) := by
  intro l before sink resolved dumped
  have hl : l.Conserved := Ledger.conserved_empty.run ops
  constructor
  · intro hdisabled
    have hresolve : before.resolve o = (.nowhere, before) := by
      rw [resolve, Output.resolve_of_disabled hdisabled]
    simp only [dumped, dumpFiles, hresolve]
    rfl
  · intro henabled
    obtain ⟨n, -, hread⟩ := DumpFilter.exists_read hframes
    have hleft := a.conserved_filesLeft hl
    have hon : (a.resolve o).1.isEnabled = true := henabled
    have hdump : dumped = _ := a.dumpFiles_setFileLedger l o
    simp only [hon, hread, if_true, OpenFiles.dumpLines_eq, OpenFiles.isEmpty_printedLines] at hdump
    refine ⟨DumpFilter.readBounds o n, a.filesLeft l,
      OpenFiles.accepted (a.filesLeft l) (DumpFilter.readBounds o n).value, _, hread,
      a.get?_filesLeft hl, hleft.total_eq, OpenFiles.mem_accepted hleft o n,
      OpenFiles.accepted_before hleft _, Output.received_writeAll _ _ _, ?_⟩
    rw [hdump, decide_not, ← Output.complainAll_eq]
    rfl

end Agent

end

namespace Agent

def staleOpens : List (Ledger.Operation FileDetail) :=
  [.add { Ledger.journal with handle := ⟨8⟩ }, .add Ledger.journal, .add Ledger.config]

def closedEighth : Agent where
  now := ⟨9⟩
  files := { OpenFiles.create with liveness := some fun h => h != ⟨8⟩ }

theorem byAge_filesLeft_staleOpens :
    (closedEighth.filesLeft (Ledger.run {} staleOpens)).byAge = [Ledger.config, Ledger.journal] := by
  have hleft : (closedEighth.filesLeft (Ledger.run {} staleOpens)).Conserved :=
    closedEighth.conserved_filesLeft (Ledger.conserved_empty.run staleOpens)
  have hperm : [Ledger.config, Ledger.journal].Perm
      (closedEighth.filesLeft (Ledger.run {} staleOpens)).records.values := by decide
  have hsorted : [Ledger.config, Ledger.journal].Pairwise fun r s => r.notAfter s = true := by
    decide
  exact hleft.byAge_eq_of_sorted hperm hsorted

/-- The engine that tells why it refuses a lone parenthesis. -/
abbrev unclosedGroup : PatternEngine where
  fault? source :=
    if source = "(" then some "regex parse error:\n    (\n    ^\nerror: unclosed group" else none
  finds := Pattern.interpreter.finds

theorem dumpFiles_prints_matching_of_stale :
    letI := unclosedGroup
    let o := OptionLine.parse "logDest=stdout,mustContain=[.]log$,mustNotContain=(,maxFrames=2"
    let before := closedEighth.setFileLedger (Ledger.run {} staleOpens)
    let dumped := before.dumpFiles o
    o.FramesReadable ∧ (before.output.resolve o).1.isEnabled = true ∧
      OpenFiles.Matches o "/var/log/app.log" ∧ ¬OpenFiles.Matches o "/etc/app.conf" ∧
      dumped.1 = true ∧ dumped.2.files.ledger.get? ⟨8⟩ = none ∧
      dumped.2.files.ledger.get? ⟨3⟩ = some Ledger.config ∧
      dumped.2.output.out =
        ["File '/var/log/app.log', mode 'wa'", "Printed 1 of 2 file(s) currently opened."] ∧
      dumped.2.output.stderr = ["Error in option mustNotContain=( for command '<none>'",
        "Invalid regular expression '(': " ++
          "regex parse error:\n    (\n    ^\nerror: unclosed group"] := by
  let _ : PatternEngine := unclosedGroup
  intro o before dumped
  have hframes : o.FramesReadable :=
    OptionLine.framesReadable_of_text "2" 2 (by decide) (by decide)
  have hmatches : OpenFiles.Matches o "/var/log/app.log" := by decide +kernel
  obtain ⟨-, hdump⟩ := dumpFiles_prints_matching staleOpens closedEighth o hframes
  obtain ⟨filter, left, printed, output, hread, hleft, -, hprinted, -, -, hdumped⟩ := hdump rfl
  have hledger : dumped.2.files.ledger = left := by rw [show dumped = _ from hdumped]
  have hlines : OpenFiles.dumpLines (closedEighth.filesLeft (Ledger.run {} staleOpens))
      (DumpFilter.readBounds o 2).value =
      ["File '/var/log/app.log', mode 'wa'", "Printed 1 of 2 file(s) currently opened."] := by
    rw [OpenFiles.dumpLines, OpenFiles.accepted, byAge_filesLeft_staleOpens]
    decide +kernel
  have houtput : dumped.2.output =
      (Output.complainAll {} (DumpFilter.readBounds o 2).notes).writeAll .stdout
        (OpenFiles.dumpLines (closedEighth.filesLeft (Ledger.run {} staleOpens))
          (DumpFilter.readBounds o 2).value) :=
    congrArg (fun answer => answer.2.output) (closedEighth.dumpFiles_setFileLedger _ o)
  rw [hlines, Output.writeAll_stdout, Output.complainAll_eq] at houtput
  refine ⟨hframes, rfl, hmatches, by decide +kernel, ?_, ?_, ?_, ?_, ?_⟩
  · have hopen : left.get? ⟨4⟩ = some Ledger.journal :=
      (hleft _ _).mpr ⟨by decide, fun isOpen h => by cases h; decide⟩
    have hjournal : Ledger.journal ∈ printed := (hprinted _).mpr ⟨hopen, hmatches⟩
    rw [show dumped = _ from hdumped]
    exact decide_eq_true (List.ne_nil_of_mem hjournal)
  · rw [hledger]
    refine Option.eq_none_iff_forall_ne_some.mpr fun r hr => ?_
    exact absurd (((hleft _ _).mp hr).2 _ rfl) (by decide)
  · rw [hledger]
    exact (hleft _ _).mpr ⟨by decide, fun isOpen h => by cases h; decide⟩
  · rw [houtput]
    rfl
  · rw [houtput]
    decide +kernel

end Agent

end ResourceTrace
