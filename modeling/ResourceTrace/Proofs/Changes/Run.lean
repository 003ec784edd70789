import ResourceTrace.Proofs.Changes.History
import ResourceTrace.Proofs.Commands.Table
import ResourceTrace.Proofs.Event.Site
import ResourceTrace.Proofs.Output.Enabled

set_option autoImplicit false

namespace ResourceTrace

namespace ChangeKind

theorem logger_inj {kind other : ChangeKind} : kind.logger = other.logger ↔ kind = other := by
  cases kind <;> cases other <;> simp [logger, Logger.localeChanges, Logger.timeZoneChanges,
    Logger.propertyChanges]

theorem logger_lt_count (kind : ChangeKind) : kind.logger < Logger.count := by
  cases kind <;> decide

end ChangeKind

theorem Changes.switch_configure (c : Changes) (name line : String) (kind : ChangeKind) :
    (c.configure name line).switch kind = (c.switch kind).configure name line := by
  cases kind <;> rfl

namespace ChangeLog

/-- The values in the buffer. A new value without a key leaves a hole in front of it. -/
def event : Option String → Option (Option String) → Buffer
  | none, none => []
  | some key, none => [.str key]
  | none, some new => [.null, Change.staged new]
  | some key, some new => [.str key, Change.staged new]

def History.openEvent (h : History) (t : Nat) (kind : ChangeKind) : Buffer :=
  event (h.staged? Action.key? t kind) (h.staged? Action.newValue? t kind)

namespace History

variable {c : Call} {h : History} {t : Nat} {kind : ChangeKind}

theorem openEvent_cons_of_foreign (hc : ¬(c.thread = t ∧ c.action.kind? = some kind)) :
    openEvent (c :: h) t kind = h.openEvent t kind := by
  rw [openEvent, staged?_cons_of_foreign _ hc, staged?_cons_of_foreign _ hc, openEvent]

theorem openEvent_cons_of_closes (hc : c.thread = t ∧ c.action.kind? = some kind)
    (hcloses : c.action.closes = true) : openEvent (c :: h) t kind = [] := by
  rw [openEvent, staged?_cons_of_closes _ hc hcloses, staged?_cons_of_closes _ hc hcloses, event]

theorem openEvent_cons_of_stages (hc : c.thread = t ∧ c.action.kind? = some kind)
    (hstages : c.action.closes = false) :
    openEvent (c :: h) t kind =
      event (c.action.key?.or (h.staged? Action.key? t kind))
        (c.action.newValue?.or (h.staged? Action.newValue? t kind)) := by
  rw [openEvent, staged?_cons_of_stages _ hc hstages, staged?_cons_of_stages _ hc hstages]

end History

theorem write_key_event (key? : Option String) (new? : Option (Option String)) (key : String) :
    (event key? new?).write Change.keyPosition (.str key) = event (some key) new? := by
  cases key? <;> cases new? <;> rfl

theorem write_new_event (key? : Option String) (new? : Option (Option String))
    (new : Option String) :
    (event key? new?).write Change.newPosition (Change.staged new) = event key? (some new) := by
  cases key? <;> cases new? <;> rfl

theorem str?_staged (v : Option String) : (Change.staged v).str? = v := by
  cases v <;> rfl

theorem ofEvent_write_old (key? : Option String) (new? : Option (Option String))
    (old : Option String) :
    Change.ofEvent ((event key? new?).write Change.oldPosition (Change.staged old)) =
      ⟨key?, old, new?.join⟩ := by
  have hevent : Change.ofEvent ((event key? new?).write Change.oldPosition (Change.staged old)) =
      ⟨key?, (Change.staged old).str?, new?.bind fun new => (Change.staged new).str?⟩ := by
    cases key? <;> cases new? <;> rfl
  rw [hevent]
  simp only [str?_staged]
  rfl

end ChangeLog

def Output.report (o : Output) (kind : ChangeKind) (line? : Option String) (stack : Stack)
    (message : String) : Output :=
  match line? with
  | none => o
  | some line =>
    let (sink, o) := o.resolve (OptionLine.forCommand line kind.command)
    o.logWithStack sink stack message

namespace Agent

open ChangeLog (Action Call History event)

/-- What a call on the change loggers does; a name that no command has is refused. -/
def observe (a : Agent) (c : Call) : Agent :=
  let a := { a with stack := c.stack }
  match c.action with
  | .configure name line => a.afterCall (name, line)
  | .key kind text => a.stageKey c.thread kind text
  | .newValue kind v => a.stageNewValue c.thread kind v
  | .change kind old => (a.closeChange c.thread kind old).2

def observeAll (a : Agent) (h : History) : Agent := h.foldr (fun c a => a.observe c) a

theorem switch_afterCall (a : Agent) (name line : String) (kind : ChangeKind) :
    (a.afterCall (name, line)).changes.switch kind =
      (a.changes.switch kind).configure name line := by
  cases hc : a.command? name with
  | some command =>
    rw [afterCall, configure_of_known hc]
    exact a.changes.switch_configure name line kind
  | none =>
    have hmem : (a.changes.switch kind).command ∈ a.commands := by
      rw [commands_eq]
      exact List.mem_map_of_mem (by cases kind <;> simp [switches, ChangeKind.all])
    have hname := (a.command?_eq_none_iff name).mp hc _ hmem
    rw [afterCall, configure_of_unknown hc, Switch.configure, if_neg hname]

theorem afterCall_table_staging (a : Agent) (call : String × String) :
    (a.afterCall call).table = a.table ∧ (a.afterCall call).staging = a.staging := by
  cases hc : a.command? call.1 with
  | some command =>
    rw [afterCall, configure_of_known hc]
    exact ⟨rfl, rfl⟩
  | none =>
    rw [afterCall, configure_of_unknown hc]
    exact ⟨rfl, rfl⟩

theorem reportChange_of_switch {a : Agent} {kind : ChangeKind} {line? : Option String}
    (hs : a.changes.switch kind =
      ⟨kind.command, line?.map fun line => OptionLine.forCommand line kind.command⟩) (c : Change) :
    a.reportChange kind c =
      { a with output := a.output.report kind line? a.stack (c.message kind) } := by
  rw [reportChange, hs]
  cases line? with
  | none => rfl
  | some line => rfl

structure Observes (a : Agent) (h : History) : Prop where
  logger : ∀ kind : ChangeKind, kind.logger < a.table.capacity
  switch : ∀ kind : ChangeKind, a.changes.switch kind =
    ⟨kind.command, (h.line? kind).map fun line => OptionLine.forCommand line kind.command⟩
  events : ∀ t kind, a.staging.buffer (a.site kind.logger t) = h.openEvent t kind

namespace Observes

variable {a : Agent} {h : History} {c : Call} {kind : ChangeKind}

theorem fresh (output : Output) (now : Moment) : Observes { output, now } [] where
  logger := ChangeKind.logger_lt_count
  switch := fun kind => by cases kind <;> rfl
  events := fun _ _ => rfl

theorem congr (ho : a.Observes h) {b : Agent} (htable : b.table = a.table)
    (hchanges : b.changes = a.changes) (hstaging : b.staging = a.staging) : b.Observes h where
  logger := by rw [htable]; exact ho.logger
  switch := by rw [hchanges]; exact ho.switch
  events := by unfold site; rw [hstaging, htable]; exact ho.events

theorem events_at (ho : a.Observes h) (hc : c.action.kind? = some kind) {s : Staging}
    (hown : s.buffer (a.site kind.logger c.thread) = History.openEvent (c :: h) c.thread kind)
    (hothers : ∀ site, site ≠ a.site kind.logger c.thread → s.buffer site = a.staging.buffer site)
    (t : Nat) (other : ChangeKind) :
    s.buffer (a.site other.logger t) = History.openEvent (c :: h) t other := by
  by_cases hsame : c.thread = t ∧ kind = other
  · obtain ⟨rfl, rfl⟩ := hsame
    exact hown
  · have hsite : a.site other.logger t ≠ a.site kind.logger c.thread := by
      simp only [site, ne_eq, Site.mk.injEq, true_and, ChangeKind.logger_inj]
      rintro ⟨rfl, rfl⟩
      exact hsame ⟨rfl, rfl⟩
    have hforeign : ¬(c.thread = t ∧ c.action.kind? = some other) := by
      rwa [hc, Option.some.injEq]
    rw [hothers _ hsite, ho.events, History.openEvent_cons_of_foreign hforeign]

theorem stage (ho : a.Observes h) (hc : c.action.kind? = some kind)
    (hstages : c.action.closes = false) {position : Nat} (hp : position < 64) {v : Value}
    (hv : (h.openEvent c.thread kind).write position v =
      event (c.action.key?.or (h.staged? Action.key? c.thread kind))
        (c.action.newValue?.or (h.staged? Action.newValue? c.thread kind))) :
    (a.stageChange c.thread kind position v).Observes (c :: h) := by
  have hown : c.thread = c.thread ∧ c.action.kind? = some kind := ⟨rfl, hc⟩
  rw [stageChange, stage_of_logger (ho.logger kind) _ _ hp]
  refine ⟨ho.logger, fun k => by rw [History.line?_cons_of_kind hc]; exact ho.switch k,
    ho.events_at hc ?_ fun site hs => Staging.buffer_setBuffer_of_ne hs _ _⟩
  rw [Staging.buffer_setBuffer_self, ho.events, hv, History.openEvent_cons_of_stages hown hstages]

theorem closeChange_eq (ho : a.Observes h) (t : Nat) (kind : ChangeKind) (old : Option String) :
    ∃ s : Staging, s.buffer (a.site kind.logger t) = [] ∧
      (∀ site, site ≠ a.site kind.logger t → s.buffer site = a.staging.buffer site) ∧
      a.closeChange t kind old =
        let c := h.closing t kind old
        (c.isReal, { a with
          staging := s
          output := if c.isReal then a.output.report kind (h.line? kind) a.stack (c.message kind)
            else a.output }) := by
  -- The agent once the old value is staged, behind whatever the thread has staged before.
  let b : Agent := { a with
    staging := a.staging.setBuffer (a.site kind.logger t)
      ((a.staging.buffer (a.site kind.logger t)).write Change.oldPosition (Change.staged old)) }
  have hstage : a.stageChange t kind Change.oldPosition (Change.staged old) = b :=
    stage_of_logger (ho.logger kind) (changeProbe kind) t (by decide) (Change.staged old)
  have hevent : Change.ofEvent (b.staging.buffer (b.site kind.logger t)) = h.closing t kind old := by
    rw [show b.site kind.logger t = a.site kind.logger t from rfl, Staging.buffer_setBuffer_self,
      ho.events, History.openEvent, ChangeLog.ofEvent_write_old, History.closing]
  have hclose := close?_of_logger (a := b) (ho.logger kind) (changeProbe kind) t
  let closed : Agent := { b with staging := b.staging.setBuffer (b.site kind.logger t) [] }
  have hreport := reportChange_of_switch (a := closed) (ho.switch kind) (h.closing t kind old)
  refine ⟨b.staging.setBuffer (a.site kind.logger t) [], Staging.buffer_setBuffer_self _ _ _,
    fun site hs => ?_, ?_⟩
  · rw [Staging.buffer_setBuffer_of_ne hs, Staging.buffer_setBuffer_of_ne hs]
  · simp only [closeChange, hstage, hclose, hevent]
    by_cases hreal : (h.closing t kind old).isReal = true
    · simp only [hreal, if_true]
      exact congrArg (Prod.mk true) hreport
    · simp only [hreal, if_false, Bool.false_eq_true]
      rfl

theorem close (ho : a.Observes h) {old : Option String} (hc : c.action = .change kind old) :
    (a.closeChange c.thread kind old).2.Observes (c :: h) := by
  have hown : c.thread = c.thread ∧ c.action.kind? = some kind := by rw [hc]; exact ⟨rfl, rfl⟩
  have hcloses : c.action.closes = true := by rw [hc]; rfl
  obtain ⟨s, hempty, hothers, hclose⟩ := ho.closeChange_eq c.thread kind old
  rw [hclose]
  refine ⟨ho.logger, fun k => ?_, ho.events_at hown.2 ?_ hothers⟩
  · rw [History.line?_cons_of_kind hown.2]
    exact ho.switch k
  · rw [hempty, History.openEvent_cons_of_closes hown hcloses]

theorem configure (ho : a.Observes h) {name line : String} (hc : c.action = .configure name line) :
    (a.afterCall (name, line)).Observes (c :: h) := by
  obtain ⟨htable, hstaging⟩ := a.afterCall_table_staging (name, line)
  refine ⟨by rw [htable]; exact ho.logger, fun kind => ?_, fun t kind => ?_⟩
  · rw [switch_afterCall, ho.switch, History.line?_cons_of_configure hc, Switch.configure]
    by_cases hn : name = kind.commandName
    · rw [if_pos hn, if_pos (show kind.command.name = name from hn.symm)]
      rfl
    · rw [if_neg hn, if_neg (show kind.command.name ≠ name from Ne.symm hn)]
  · -- Configuring is not a call on a kind, so that all events stay open.
    have hforeign : ¬(c.thread = t ∧ c.action.kind? = some kind) := by
      rw [hc]
      simp [Action.kind?]
    rw [hstaging, site, htable, History.openEvent_cons_of_foreign hforeign]
    exact ho.events t kind

theorem step (ho : a.Observes h) (c : Call) : (a.observe c).Observes (c :: h) := by
  have hb : Observes { a with stack := c.stack } h := ho.congr rfl rfl rfl
  unfold observe
  split
  · next name line hc => exact hb.configure hc
  · next kind text hc =>
    refine hb.stage (by rw [hc]; rfl) (by rw [hc]; rfl) (by decide) ?_
    rw [hc]
    exact ChangeLog.write_key_event _ _ text
  · next kind v hc =>
    refine hb.stage (by rw [hc]; rfl) (by rw [hc]; rfl) (by decide) ?_
    rw [hc]
    exact ChangeLog.write_new_event _ _ v
  · next kind old hc => exact hb.close hc

theorem run (ho : a.Observes []) (h : History) : (a.observeAll h).Observes h := by
  induction h with
  | nil => exact ho
  | cons c earlier ih => exact ih.step c

end Observes

end Agent

end ResourceTrace
