import ResourceTrace.Proofs.Event.Site
import ResourceTrace.Proofs.Ledger.Conservation
import ResourceTrace.Proofs.OpenFiles.History

set_option autoImplicit false

namespace ResourceTrace

namespace OpenFiles

def event : (path? mode? : Option String) → Buffer
  | none, none => []
  | some path, none => [.str path]
  | none, some mode => [.null, .str mode]
  | some path, some mode => [.str path, .str mode]

theorem write_path_event (path? mode? : Option String) (path : String) :
    (event path? mode?).write pathPosition (.str path) = event (some path) mode? := by
  cases path? <;> cases mode? <;> rfl

theorem write_mode_event (path? mode? : Option String) (mode : String) :
    (event path? mode?).write modePosition (.str mode) = event path? (some mode) := by
  cases path? <;> cases mode? <;> rfl

theorem stagedPath?_event (path? mode? : Option String) :
    stagedPath? (event path? mode?) = path? := by
  cases path? <;> cases mode? <;> rfl

theorem stagedMode_event (path? mode? : Option String) :
    stagedMode (event path? mode?) = mode?.getD "r" := by
  cases path? <;> cases mode? <;> rfl

theorem settle_event (l : Ledger FileDetail) (path? mode? : Option String) (h : Handle)
    (stack : Stack) (now : Moment) :
    (settle l (event path? mode?) h stack now).1 =
      match path? with
      | none => l
      | some path => (l.replace ⟨h, 0, now, stack, ⟨path, mode?.getD "r"⟩⟩).2 := by
  rw [settle, stagedPath?_event, stagedMode_event]
  cases path? with
  | none => rfl
  | some path =>
    cases hr : l.get? h with
    | none => simp [Ledger.add_of_free, Ledger.replace_of_free, hr]
    | some r => simp [Ledger.add_of_present, hr]

theorem close_of_absent {l : Ledger FileDetail} {h : Handle} (hn : l.get? h = none) :
    close l h = (unknownPath, l) := by
  simp [close, Ledger.remove_of_absent hn]

theorem close_of_present {l : Ledger FileDetail} {h : Handle} {r : Record FileDetail}
    (hr : l.get? h = some r) : close l h = (r.detail.path, l.drop h r) := by
  simp [close, Ledger.remove_of_present hr]

theorem get?_close (l : Ledger FileDetail) (k h : Handle) :
    (close l k).2.get? h = if k = h then none else l.get? h := by
  cases hk : l.get? k with
  | none =>
    rw [close_of_absent hk]
    split
    · next he => rw [← he, hk]
    · rfl
  | some r => simp [close_of_present hk, Ledger.get?_drop, eq_comm]

/-- The ledger holds what is open, each record under its own handle and without a size. -/
structure Holds (l : Ledger FileDetail) (log : History) : Prop where
  conserved : l.Conserved
  detail_eq : ∀ h, (l.get? h).map Record.detail = log.openAs? h
  size_eq : ∀ h r, l.get? h = some r → r.size = 0

namespace Holds

variable {l : Ledger FileDetail} {log : History}

theorem start : Holds {} [] :=
  ⟨Ledger.conserved_empty, fun _ => rfl, fun h r hr => by simp [Ledger.get?] at hr⟩

theorem staged (hl : Holds l log) {c : Call}
    (hc : ∀ h, History.openAs? h (c :: log) = log.openAs? h) : Holds l (c :: log) :=
  ⟨hl.conserved, fun h => (hl.detail_eq h).trans (hc h).symm, hl.size_eq⟩

theorem opened (hl : Holds l log) {c : Call} {h : Handle} (hc : c.action = .opened h)
    (stack : Stack) (now : Moment) :
    Holds (settle l (event (log.staged? Action.path? c.thread)
      (log.staged? Action.mode? c.thread)) h stack now).1 (c :: log) := by
  rw [settle_event]
  cases hp : log.staged? Action.path? c.thread with
  | none => exact hl.staged fun k => by simp [History.openAs?, hc, History.detail?, hp]
  | some path =>
    refine ⟨hl.conserved.replace _, fun k => ?_, fun k r hr => ?_⟩
    · rw [Ledger.get?_replace]
      by_cases hk : h = k
      · simp [History.openAs?, hc, History.detail?, hp, hk]
      · simp [History.openAs?, hc, hk, Ne.symm hk, hl.detail_eq k]
    · rw [Ledger.get?_replace] at hr
      split at hr
      · rw [← Option.some.inj hr]
      · exact hl.size_eq k r hr

theorem closed (hl : Holds l log) {c : Call} {h : Handle} (hc : c.action = .closed h) :
    Holds (close l h).2 (c :: log) := by
  have hget := get?_close l h
  refine ⟨?_, fun k => ?_, fun k r hr => ?_⟩
  · cases hr : l.get? h with
    | none => simpa [close_of_absent hr] using hl.conserved
    | some r => simpa [close_of_present hr] using hl.conserved.drop hr
  · rw [hget, History.openAs?, hc]
    by_cases hk : h = k <;> simp [hk, hl.detail_eq k]
  · rw [hget] at hr
    split at hr
    · simp at hr
    · exact hl.size_eq k r hr

theorem get?_forgetClosed (hl : Holds l log) (isOpen : Handle → Bool) (h : Handle) :
    (forgetClosed l isOpen).2.get? h = if isOpen h then l.get? h else none := by
  rw [forgetClosed, Ledger.get?_retain]
  cases hr : l.get? h with
  | none => simp
  | some r => simp [Option.filter, hl.conserved.handle_eq h r hr]

theorem forgotten (hl : Holds l log) {c : Call} {isOpen : Handle → Bool}
    (hc : c.action = .forget isOpen) : Holds (forgetClosed l isOpen).2 (c :: log) := by
  have hget := hl.get?_forgetClosed isOpen
  refine ⟨hl.conserved.retain _, fun k => ?_, fun k r hr => ?_⟩
  · rw [hget, History.openAs?, hc]
    cases ho : isOpen k <;> simp [ho, hl.detail_eq k]
  · rw [hget] at hr
    split at hr
    · exact hl.size_eq k r hr
    · simp at hr

end Holds

end OpenFiles

namespace Agent

open OpenFiles (Action History)

def track (a : Agent) (c : OpenFiles.Call) : Agent :=
  let a := { a with stack := c.stack, now := c.now }
  match c.action with
  | .path p => a.stagePath c.thread p
  | .mode m => a.stageMode c.thread m
  | .opened h => a.closeOpening c.thread h
  | .closed h => (a.closeFile h).2
  | .forget isOpen => (a.forgetClosed isOpen).2

def trackAll (a : Agent) : History → Agent
  | [] => a
  | c :: earlier => (a.trackAll earlier).track c

structure Tracks (a : Agent) (log : History) : Prop where
  logger : Logger.openFiles < a.table.capacity
  holds : OpenFiles.Holds a.files.ledger log
  events : ∀ t, a.staging.buffer (a.site Logger.openFiles t) =
    OpenFiles.event (log.staged? Action.path? t) (log.staged? Action.mode? t)

theorem tracks_fresh (output : Output) (start : Moment) : Tracks { output, now := start } [] where
  logger := by simp [Logger.openFiles, Logger.count]
  holds := .start
  events := fun _ => rfl

namespace Tracks

variable {a : Agent} {log : History} {c : OpenFiles.Call}

theorem events_setBuffer (h : a.Tracks log) {b : Buffer}
    (hb : b = OpenFiles.event (History.staged? Action.path? c.thread (c :: log))
      (History.staged? Action.mode? c.thread (c :: log))) (t : Nat) :
    (a.staging.setBuffer (a.site Logger.openFiles c.thread) b).buffer (a.site Logger.openFiles t) =
      OpenFiles.event (History.staged? Action.path? t (c :: log))
        (History.staged? Action.mode? t (c :: log)) := by
  by_cases ht : c.thread = t
  · rw [← ht, Staging.buffer_setBuffer_self, hb]
  · have hne : a.site Logger.openFiles t ≠ a.site Logger.openFiles c.thread :=
      fun hs => ht (site_inj.mp hs).symm
    rw [Staging.buffer_setBuffer_of_ne hne, h.events t]
    simp [History.staged?, ht]

theorem stage (h : a.Tracks log) {position : Nat} (hp : position < 64) {v : Value}
    (hopen : ∀ k, History.openAs? k (c :: log) = log.openAs? k)
    (hv : (OpenFiles.event (log.staged? Action.path? c.thread)
        (log.staged? Action.mode? c.thread)).write position v =
      OpenFiles.event (History.staged? Action.path? c.thread (c :: log))
        (History.staged? Action.mode? c.thread (c :: log))) :
    (a.stage fileProbe c.thread Logger.openFiles position v).Tracks (c :: log) := by
  rw [← h.events c.thread] at hv
  rw [stage_of_logger h.logger fileProbe c.thread hp]
  exact ⟨h.logger, h.holds.staged hopen, h.events_setBuffer hv⟩

theorem closeOpening_eq (h : a.Tracks log) (t : Nat) (k : Handle) :
    a.closeOpening t k =
      let settled := OpenFiles.settle a.files.ledger
        (OpenFiles.event (log.staged? Action.path? t) (log.staged? Action.mode? t)) k a.stack a.now
      { a with
        staging := a.staging.setBuffer (a.site Logger.openFiles t) []
        files := { a.files with ledger := settled.1 }
        output := settled.2.foldl Output.warn a.output } := by
  rw [closeOpening, close?_of_logger h.logger, h.events t]
  simp only [setFileLedger, warnAll_eq]

theorem opened (h : a.Tracks log) {k : Handle} (hc : c.action = .opened k) :
    (a.closeOpening c.thread k).Tracks (c :: log) := by
  rw [h.closeOpening_eq]
  refine ⟨h.logger, h.holds.opened hc a.stack a.now, h.events_setBuffer ?_⟩
  simp [History.staged?, hc, OpenFiles.event]

theorem setFileLedger (h : a.Tracks log) {ledger : Ledger FileDetail}
    (hledger : OpenFiles.Holds ledger (c :: log)) (hpath : c.action.path? = none)
    (hmode : c.action.mode? = none) (hopen : ∀ k, c.action ≠ .opened k) :
    (a.setFileLedger ledger).Tracks (c :: log) := by
  refine ⟨h.logger, hledger, fun t => ?_⟩
  rw [History.staged?_cons_of_none hpath hopen, History.staged?_cons_of_none hmode hopen]
  exact h.events t

theorem step (h : a.Tracks log) (c : OpenFiles.Call) : (a.track c).Tracks (c :: log) := by
  -- A record keeps the stack and the time of its call, but no file depends on them.
  have hb : Tracks { a with stack := c.stack, now := c.now } log := ⟨h.logger, h.holds, h.events⟩
  unfold track
  split
  · next p hc =>
    refine hb.stage (by decide) (fun k => by simp [History.openAs?, hc]) ?_
    rw [OpenFiles.write_path_event]
    simp [History.staged?, hc, Action.path?, Action.mode?]
  · next m hc =>
    refine hb.stage (by decide) (fun k => by simp [History.openAs?, hc]) ?_
    rw [OpenFiles.write_mode_event]
    simp [History.staged?, hc, Action.path?, Action.mode?]
  · next k hc => exact hb.opened hc
  · next k hc =>
    exact hb.setFileLedger (hb.holds.closed hc) (by rw [hc]; rfl) (by rw [hc]; rfl) (by simp [hc])
  · next isOpen hc =>
    exact hb.setFileLedger (hb.holds.forgotten hc) (by rw [hc]; rfl) (by rw [hc]; rfl) (by simp [hc])

theorem run (h : a.Tracks []) (log : History) : (a.trackAll log).Tracks log := by
  induction log with
  | nil => exact h
  | cons c earlier ih => exact ih.step c

end Tracks

/-- Whatever the threads have staged, opened and closed, and in whatever order, the ledger holds
exactly the handles that are open, each as what it was opened as, and its total is zero. This
holds after every call, because the beginning of a history is a history. An open without a path
records nothing; closing answers the path that is tracked, and is without effect if none is; and
the handles that the host does not know any more are forgotten and counted. -/
theorem files_follow_history (output : Output) (start : Moment) (log : History) :
    let a := trackAll { output, now := start } log
    (∀ h d, (∃ r, a.files.ledger.get? h = some r ∧ r.detail = d) ↔ log.Open h d) ∧
      (∀ h r, a.files.ledger.get? h = some r → r.handle = h) ∧
      a.files.ledger.total = 0 ∧
      (∀ t h, log.staged? Action.path? t = none →
        (a.closeOpening t h).files = a.files ∧ (a.closeOpening t h).output = a.output) ∧
      (∀ h d, log.Open h d → (a.closeFile h).1 = d.path) ∧
      (∀ h, (∀ d, ¬log.Open h d) → a.closeFile h = ("<unknown file>", a)) ∧
      ∀ isOpen,
        (∀ h, (a.forgetClosed isOpen).2.files.ledger.get? h =
          if isOpen h then a.files.ledger.get? h else none) ∧
        (a.forgetClosed isOpen).1 =
          (a.files.ledger.records.keys.filter fun h => !isOpen h).length := by
  intro a
  have htracks : a.Tracks log := (tracks_fresh output start).run log
  have hholds := htracks.holds
  -- What a handle is open as, call by call, is what the latest call about it says.
  have hopen : ∀ h d, (∃ r, a.files.ledger.get? h = some r ∧ r.detail = d) ↔ log.Open h d := by
    intro h d
    rw [← History.openAs?_eq_some_iff, ← hholds.detail_eq h, Option.map_eq_some_iff]
  refine ⟨hopen, hholds.conserved.handle_eq, hholds.conserved.total_eq_zero hholds.size_eq,
    fun t h hpath => ?_, fun h d hd => ?_, fun h hd => ?_, fun isOpen => ⟨?_, ?_⟩⟩
  · rw [htracks.closeOpening_eq, hpath]
    cases log.staged? Action.mode? t <;> exact ⟨rfl, rfl⟩
  · obtain ⟨r, hr, rfl⟩ := (hopen h d).mpr hd
    simp [closeFile, OpenFiles.close_of_present hr]
  · have hnone : a.files.ledger.get? h = none := by
      refine Option.eq_none_iff_forall_ne_some.mpr fun r hr => ?_
      exact hd r.detail ((hopen h r.detail).mp ⟨r, hr, rfl⟩)
    simp [closeFile, OpenFiles.close_of_absent hnone, Agent.setFileLedger, OpenFiles.unknownPath]
  · exact hholds.get?_forgetClosed isOpen
  · exact hholds.conserved.retain_count isOpen

/-- Two threads open one handle, a third stages a mode that its opening without a path drops, and
handles are closed that were never opened. The latest call stands first. -/
def crossedOpens : History :=
  [{ thread := 3, action := .opened ⟨5⟩ }, { thread := 3, action := .path "c.txt" },
   { thread := 1, action := .forget fun h => h ≠ ⟨4⟩ }, { thread := 1, action := .closed ⟨9⟩ },
   { thread := 2, action := .opened ⟨3⟩ }, { thread := 1, action := .opened ⟨3⟩ },
   { thread := 3, action := .opened ⟨5⟩ }, { thread := 2, action := .path "b.txt" },
   { thread := 3, action := .mode "a" }, { thread := 1, action := .path "a.txt" },
   { thread := 2, action := .mode "w" }, { thread := 1, action := .opened ⟨4⟩ },
   { thread := 1, action := .path "d.txt" }]

theorem files_follow_history_of_crossed_opens :
    let ledger := (trackAll { now := ⟨0⟩ } crossedOpens).files.ledger
    (∃ r, ledger.get? ⟨3⟩ = some r ∧ r.detail = ⟨"b.txt", "w"⟩) ∧
      (∃ r, ledger.get? ⟨5⟩ = some r ∧ r.detail = ⟨"c.txt", "r"⟩) ∧
      (¬∃ r, ledger.get? ⟨4⟩ = some r ∧ r.detail = ⟨"d.txt", "r"⟩) ∧ ledger.total = 0 := by
  obtain ⟨hopen, -, htotal, -⟩ := files_follow_history {} ⟨0⟩ crossedOpens
  refine ⟨(hopen _ _).mpr ?_, (hopen _ _).mpr ?_, fun h => ?_, htotal⟩
  · exact (History.openAs?_eq_some_iff _ _ _).mp (by decide)
  · exact (History.openAs?_eq_some_iff _ _ _).mp (by decide)
  · have hnone : crossedOpens.openAs? ⟨4⟩ = none := by decide
    rw [hopen, ← History.openAs?_eq_some_iff, hnone] at h
    simp at h

end Agent

end ResourceTrace
