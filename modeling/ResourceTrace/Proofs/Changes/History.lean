import ResourceTrace.Probe.Changes

set_option autoImplicit false

namespace ResourceTrace.ChangeLog

inductive Action where
  | configure (name line : String)
  | key (kind : ChangeKind) (text : String)
  | newValue (kind : ChangeKind) (v : Option String)
  | change (kind : ChangeKind) (old : Option String)
  deriving DecidableEq, Repr

namespace Action

def kind? : Action → Option ChangeKind
  | configure _ _ => none
  | key kind _ | newValue kind _ | change kind _ => some kind

def closes : Action → Bool
  | change _ _ => true
  | _ => false

def key? : Action → Option String
  | key _ text => some text
  | _ => none

def newValue? : Action → Option (Option String)
  | newValue _ v => some v
  | _ => none

def lineOf? (kind : ChangeKind) : Action → Option String
  | configure name line => if name = kind.commandName then some line else none
  | _ => none

end Action

structure Call where
  thread : Nat
  action : Action
  stack : Stack := []
  deriving DecidableEq, Repr

/-- The calls so far, the latest first. -/
abbrev History := List Call

namespace History

def own (h : History) (thread : Nat) (kind : ChangeKind) : History :=
  h.filter fun c => c.thread = thread ∧ c.action.kind? = some kind

/-- A thread's own calls on a kind since it last closed a change of the kind. -/
def pending (h : History) (thread : Nat) (kind : ChangeKind) : History :=
  (h.own thread kind).takeWhile fun c => !c.action.closes

/-- What the thread has staged last for its next change of the kind, of the keys or of the new
values. -/
def staged? {α : Type} (part : Action → Option α) (h : History) (thread : Nat)
    (kind : ChangeKind) : Option α :=
  (h.pending thread kind).findSome? fun c => part c.action

def line? (h : History) (kind : ChangeKind) : Option String :=
  h.findSome? fun c => c.action.lineOf? kind

/-- The change that an old value closes. A removal that was staged, and nothing that was staged, are
both no new value. -/
def closing (h : History) (thread : Nat) (kind : ChangeKind) (old : Option String) : Change where
  key := h.staged? Action.key? thread kind
  old := old
  new := (h.staged? Action.newValue? thread kind).join

section

variable {c : Call} {h : History} {t : Nat} {kind : ChangeKind}

theorem pending_cons_of_foreign (hc : ¬(c.thread = t ∧ c.action.kind? = some kind)) :
    pending (c :: h) t kind = h.pending t kind := by
  rw [pending, own, List.filter_cons_of_neg (by simpa using hc)]
  rfl

theorem pending_cons_of_closes (hc : c.thread = t ∧ c.action.kind? = some kind)
    (hcloses : c.action.closes = true) : pending (c :: h) t kind = [] := by
  rw [pending, own, List.filter_cons_of_pos (by simpa using hc),
    List.takeWhile_cons_of_neg (by simp [hcloses])]

theorem pending_cons_of_stages (hc : c.thread = t ∧ c.action.kind? = some kind)
    (hstages : c.action.closes = false) : pending (c :: h) t kind = c :: h.pending t kind := by
  rw [pending, own, List.filter_cons_of_pos (by simpa using hc),
    List.takeWhile_cons_of_pos (by simp [hstages])]
  rfl

section

variable {α : Type} (part : Action → Option α)

theorem staged?_cons_of_foreign (hc : ¬(c.thread = t ∧ c.action.kind? = some kind)) :
    staged? part (c :: h) t kind = h.staged? part t kind := by
  rw [staged?, pending_cons_of_foreign hc, staged?]

theorem staged?_cons_of_closes (hc : c.thread = t ∧ c.action.kind? = some kind)
    (hcloses : c.action.closes = true) : staged? part (c :: h) t kind = none := by
  rw [staged?, pending_cons_of_closes hc hcloses, List.findSome?_nil]

theorem staged?_cons_of_stages (hc : c.thread = t ∧ c.action.kind? = some kind)
    (hstages : c.action.closes = false) :
    staged? part (c :: h) t kind = (part c.action).or (h.staged? part t kind) := by
  rw [staged?, pending_cons_of_stages hc hstages, List.findSome?_cons]
  cases part c.action <;> rfl

end

theorem line?_cons_of_kind {k : ChangeKind} (hc : c.action.kind? = some k) :
    line? (c :: h) kind = h.line? kind := by
  cases hc' : c.action with
  | configure name line => simp [hc', Action.kind?] at hc
  | _ => simp [line?, hc', Action.lineOf?]

theorem line?_cons_of_configure {name line : String} (hc : c.action = .configure name line) :
    line? (c :: h) kind = if name = kind.commandName then some line else h.line? kind := by
  by_cases hn : name = kind.commandName <;> simp [line?, hc, Action.lineOf?, hn]

end

end History

end ResourceTrace.ChangeLog
