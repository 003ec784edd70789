import ResourceTrace.Probe.ValueLog

set_option autoImplicit false

namespace ResourceTrace.ValueLog

inductive Action where
  | configure (name line : String)
  | log (family : Nat) (v : Value)
  | logLast (family : Nat) (v : Value)
  deriving DecidableEq, Repr

structure Call where
  thread : Nat
  action : Action
  stack : Stack := []
  deriving DecidableEq, Repr

abbrev History := List Call

structure Event where
  values : List Value
  stack : Stack
  deriving DecidableEq, Repr

namespace Event

def Fits (e : Event) : Prop := e.values.length ≤ 64

instance (e : Event) : Decidable e.Fits := inferInstanceAs (Decidable (_ ≤ _))

def frames (e : Event) : List String := e.stack.map Frame.text

variable [PatternEngine]

def Passes (e : Event) (s : FamilySettings) : Prop := s.filters.all (·.accepts e.values) = true

instance (e : Event) (s : FamilySettings) : Decidable (e.Passes s) :=
  inferInstanceAs (Decidable (_ = _))

end Event

def settings [PatternEngine] (family : Nat) (line : String) : Noted FamilySettings :=
  FamilySettings.read (OptionLine.forCommand line (Family.command family))

namespace History

/-- The values that a thread has logged on a family since it last closed an event there. -/
def logged (thread family : Nat) : History → List Value
  | [] => []
  | c :: earlier =>
    if c.thread = thread then
      match c.action with
      | .log f v => if f = family then logged thread family earlier ++ [v]
        else logged thread family earlier
      | .logLast f _ => if f = family then [] else logged thread family earlier
      | .configure _ _ => logged thread family earlier
    else logged thread family earlier

def line? (family : Nat) : History → Option String
  | [] => none
  | c :: earlier =>
    match c.action with
    | .configure name line =>
      if name = (Family.command family).name then some line else line? family earlier
    | _ => line? family earlier

/-- The event that a last value closes. -/
def event (h : History) (thread family : Nat) (v : Value) (stack : Stack) : Event :=
  ⟨h.logged thread family ++ [v], stack⟩

/-- The events of a family since it was last configured; one that is too large is none. -/
def events (family : Nat) : History → List Event
  | [] => []
  | c :: earlier =>
    match c.action with
    | .configure name _ =>
      if name = (Family.command family).name then [] else events family earlier
    | .log _ _ => events family earlier
    | .logLast f v =>
      let e := event earlier c.thread family v c.stack
      if f = family ∧ e.Fits then e :: events family earlier else events family earlier

end History

theorem History.fits_event_iff (h : History) (thread family : Nat) (v : Value) (stack : Stack) :
    (h.event thread family v stack).Fits ↔ (h.logged thread family).length < 64 := by
  rw [Event.Fits, event, List.length_append]
  rfl

def Call.concerns (family : Nat) (c : Call) : Bool :=
  match c.action with
  | .configure name _ => name == (Family.command family).name
  | .log f _ | .logLast f _ => f == family

def Call.Closes (thread family : Nat) (c : Call) : Prop :=
  c.thread = thread ∧ ∃ v, c.action = .logLast family v

theorem Call.not_concerns_of_ne {c : Call} {f g : Nat}
    (hc : (∃ v, c.action = .log f v) ∨ ∃ v, c.action = .logLast f v) (hg : g ≠ f) :
    ¬c.concerns g := by
  obtain ⟨v, hv⟩ | ⟨v, hv⟩ := hc
  · simpa [concerns, hv] using Ne.symm hg
  · simpa [concerns, hv] using Ne.symm hg

namespace History

variable {family : Nat} {c : Call} {earlier : History}

theorem logged_of_ne {thread : Nat} (h : c.thread ≠ thread) :
    logged thread family (c :: earlier) = logged thread family earlier := by
  simp [logged, h]

theorem logged_of_not_concerns (thread : Nat) (h : ¬c.concerns family) :
    logged thread family (c :: earlier) = logged thread family earlier := by
  obtain ⟨caller, action, stack⟩ := c
  cases action <;> simp_all [logged, Call.concerns]

theorem logged_elsewhere {thread : Nat} (h : c.thread ≠ thread ∨ ¬c.concerns family) :
    logged thread family (c :: earlier) = logged thread family earlier :=
  h.elim logged_of_ne (logged_of_not_concerns thread)

theorem line?_of_not_concerns (h : ¬c.concerns family) :
    line? family (c :: earlier) = line? family earlier := by
  obtain ⟨caller, action, stack⟩ := c
  cases action <;> simp_all [line?, Call.concerns]

theorem events_of_not_concerns (h : ¬c.concerns family) :
    events family (c :: earlier) = events family earlier := by
  obtain ⟨caller, action, stack⟩ := c
  cases action <;> simp_all [events, Call.concerns]

theorem logged_filter (thread family : Nat) (h : History) :
    logged thread family (h.filter (Call.concerns family)) = h.logged thread family := by
  induction h with
  | nil => rfl
  | cons c earlier ih =>
    by_cases hc : c.concerns family
    · rw [List.filter_cons_of_pos hc, logged, logged, ih]
    · rw [List.filter_cons_of_neg hc, ih, logged_of_not_concerns thread hc]

theorem line?_filter (family : Nat) (h : History) :
    line? family (h.filter (Call.concerns family)) = h.line? family := by
  induction h with
  | nil => rfl
  | cons c earlier ih =>
    by_cases hc : c.concerns family
    · rw [List.filter_cons_of_pos hc, line?, line?, ih]
    · rw [List.filter_cons_of_neg hc, ih, line?_of_not_concerns hc]

theorem events_filter (family : Nat) (h : History) :
    events family (h.filter (Call.concerns family)) = h.events family := by
  induction h with
  | nil => rfl
  | cons c earlier ih =>
    by_cases hc : c.concerns family
    · rw [List.filter_cons_of_pos hc]
      simp only [events, ih, event, logged_filter]
      rfl
    · rw [List.filter_cons_of_neg hc, ih, events_of_not_concerns hc]

variable {later : History} {v : Value}

theorem logged_of_other {thread : Nat} (hc : c.thread ≠ thread) :
    logged thread family (later ++ c :: earlier) = logged thread family (later ++ earlier) := by
  induction later with
  | nil => exact logged_of_ne hc
  | cons d later ih => rw [List.cons_append, List.cons_append, logged, logged, ih]

theorem line?_of_logged (hlog : c.action = .log family v) :
    line? family (later ++ c :: earlier) = line? family (later ++ earlier) := by
  induction later with
  | nil => simp [line?, hlog]
  | cons d later ih => rw [List.cons_append, List.cons_append, line?, line?, ih]

theorem events_of_open (hlog : c.action = .log family v)
    (hopen : ∀ d ∈ later, ¬d.Closes c.thread family) :
    events family (later ++ c :: earlier) = events family (later ++ earlier) := by
  induction later with
  | nil => simp [events, hlog]
  | cons d later ih =>
    rw [List.forall_mem_cons] at hopen
    obtain ⟨hd, hlater⟩ := hopen
    rw [List.cons_append, List.cons_append, events, events, ih hlater]
    cases hact : d.action with
    | configure name line => rfl
    | log f w => rfl
    | logLast f w =>
      by_cases hf : f = family
      · have hne : c.thread ≠ d.thread := fun ht => hd ⟨ht.symm, w, hf ▸ hact⟩
        simp only [event, hf, logged_of_other hne]
      · simp only [hf, false_and, if_false]

variable [PatternEngine]

/-- The message that an event leads to, and the settings that say where it goes. -/
def handed (h : History) (family : Nat) (e : Event) : Option (FamilySettings × String) :=
  match h.line? family with
  | none => none
  | some line =>
    let s := (settings family line).value
    if e.Fits ∧ e.Passes s ∧
        ¬(s.oncePerStack = true ∧ ∃ d ∈ h.events family, d.Passes s ∧ d.frames = e.frames) then
      some (s, s.message family e.values)
    else none

/-- The reports on the line of a family, which the first event since its configuration brings. -/
def reports (h : History) (family : Nat) : List String :=
  match h.line? family with
  | none => []
  | some line => if h.events family = [] then (settings family line).notes else []

def closing (h : History) (thread family : Nat) (v : Value) (stack : Stack) :
    Event × List String × Option (FamilySettings × String) :=
  let e := h.event thread family v stack
  (e, h.reports family, h.handed family e)

theorem fits_of_handed {h : History} {family : Nat} {e : Event}
    {answer : FamilySettings × String} (hanswer : h.handed family e = some answer) : e.Fits := by
  rw [handed] at hanswer
  split at hanswer
  · cases hanswer
  · dsimp only at hanswer
    split at hanswer
    · next hlogged => exact hlogged.1
    · cases hanswer

theorem closing_congr {h k : History} {thread : Nat}
    (hlogged : k.logged thread family = h.logged thread family)
    (hline : k.line? family = h.line? family) (hevents : k.events family = h.events family)
    (v : Value) (stack : Stack) :
    k.closing thread family v stack = h.closing thread family v stack := by
  have hreports : k.reports family = h.reports family := by rw [reports, reports, hline, hevents]
  have hhanded (e : Event) : k.handed family e = h.handed family e := by
    rw [handed, handed, hline]
    simp only [hevents]
  simp only [closing, event, hlogged, hreports, hhanded]

theorem closing_filter (h : History) (thread family : Nat) (v : Value) (stack : Stack) :
    closing (h.filter (Call.concerns family)) thread family v stack =
      h.closing thread family v stack :=
  closing_congr (logged_filter thread family h) (line?_filter family h) (events_filter family h) v
    stack

theorem closing_of_open {thread : Nat} (hc : c.thread ≠ thread) (hlog : c.action = .log family v)
    (hopen : ∀ d ∈ later, ¬d.Closes c.thread family) (last : Value) (stack : Stack) :
    closing (later ++ c :: earlier) thread family last stack =
      closing (later ++ earlier) thread family last stack :=
  closing_congr (logged_of_other hc) (line?_of_logged hlog) (events_of_open hlog hopen) last stack

end History

end ResourceTrace.ValueLog
