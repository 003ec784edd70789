import ResourceTrace.Probe.OpenFiles

set_option autoImplicit false

namespace ResourceTrace.OpenFiles

inductive Action where
  | path (p : String)
  | mode (m : String)
  | opened (h : Handle)
  | closed (h : Handle)
  | forget (isOpen : Handle → Bool)

namespace Action

def path? : Action → Option String
  | path p => some p
  | _ => none

def mode? : Action → Option String
  | mode m => some m
  | _ => none

def Ends (h : Handle) : Action → Prop
  | closed k => k = h
  | forget isOpen => isOpen h = false
  | _ => False

end Action

structure Call where
  thread : Nat
  action : Action
  stack : Stack := []
  now : Moment := ⟨0⟩

abbrev History := List Call

namespace History

/-- The text that a thread has staged last since it last opened a file, of the paths or of the
modes. -/
def staged? (part : Action → Option String) (thread : Nat) : History → Option String
  | [] => none
  | c :: earlier =>
    if c.thread = thread then
      match c.action with
      | .opened _ => none
      | action => (part action).or (staged? part thread earlier)
    else staged? part thread earlier

theorem staged?_cons_of_none {part : Action → Option String} {c : Call}
    (hpart : part c.action = none) (hopen : ∀ h, c.action ≠ .opened h) (thread : Nat)
    (earlier : History) : staged? part thread (c :: earlier) = staged? part thread earlier := by
  obtain ⟨caller, action, stack, now⟩ := c
  cases action with
  | opened h => exact absurd rfl (hopen h)
  | _ => simp [staged?, show part _ = none from hpart]

/-- What a thread opens a file as: nothing without a path, and for reading without a mode. -/
def detail? (log : History) (thread : Nat) : Option FileDetail :=
  (log.staged? Action.path? thread).map fun path =>
    ⟨path, (log.staged? Action.mode? thread).getD "r"⟩

/-- The latest call that opened the handle with a path opened it as `d`, and no later one has
closed it or found it closed. -/
def Open (log : History) (h : Handle) (d : FileDetail) : Prop :=
  ∃ later c earlier, log = later ++ c :: earlier ∧
    c.action = .opened h ∧ detail? earlier c.thread = some d ∧
    (∀ x ∈ later, ¬x.action.Ends h) ∧
    ∀ latest x between, later = latest ++ x :: between → x.action = .opened h →
      detail? (between ++ c :: earlier) x.thread = none

def openAs? (h : Handle) : History → Option FileDetail
  | [] => none
  | c :: earlier =>
    match c.action with
    | .opened k =>
      if k = h then (detail? earlier c.thread).or (openAs? h earlier) else openAs? h earlier
    | .closed k => if k = h then none else openAs? h earlier
    | .forget isOpen => if isOpen h then openAs? h earlier else none
    | _ => openAs? h earlier

theorem not_open_nil (h : Handle) (d : FileDetail) : ¬Open [] h d := by
  rintro ⟨later, c, earlier, hlog, -⟩
  simp at hlog

theorem open_cons_iff (c : Call) (earlier : History) (h : Handle) (d : FileDetail) :
    Open (c :: earlier) h d ↔
      (c.action = .opened h ∧ detail? earlier c.thread = some d) ∨
        (Open earlier h d ∧ ¬c.action.Ends h ∧
          (c.action = .opened h → detail? earlier c.thread = none)) := by
  constructor
  · rintro ⟨later, x, before, hlog, hopen, hdetail, hends, hagain⟩
    cases later with
    | nil =>
      obtain ⟨rfl, rfl⟩ := List.cons.inj hlog
      exact .inl ⟨hopen, hdetail⟩
    | cons y later =>
      obtain ⟨rfl, rfl⟩ := List.cons.inj hlog
      refine .inr ⟨⟨later, x, before, rfl, hopen, hdetail, fun z hz => hends z (by simp [hz]),
        fun latest z between hl => hagain (c :: latest) z between (by rw [hl]; rfl)⟩,
        hends c (by simp), hagain [] c later rfl⟩
  · rintro (⟨hopen, hdetail⟩ | ⟨⟨later, x, before, rfl, hopen, hdetail, hends, hagain⟩, hc, hnone⟩)
    · exact ⟨[], c, earlier, rfl, hopen, hdetail, by simp, by simp⟩
    · refine ⟨c :: later, x, before, rfl, hopen, hdetail, ?_, ?_⟩
      · simpa using ⟨hc, hends⟩
      · intro latest z between hl hz
        cases latest with
        | nil =>
          obtain ⟨rfl, rfl⟩ := List.cons.inj hl
          exact hnone hz
        | cons y latest => exact hagain latest z between (List.cons.inj hl).2 hz

theorem openAs?_eq_some_iff (log : History) (h : Handle) (d : FileDetail) :
    log.openAs? h = some d ↔ log.Open h d := by
  induction log with
  | nil => simp [openAs?, not_open_nil]
  | cons c earlier ih =>
    rw [open_cons_iff, ← ih]
    cases hc : c.action with
    | path p => simp [openAs?, hc, Action.Ends]
    | mode m => simp [openAs?, hc, Action.Ends]
    | opened k =>
      by_cases hk : k = h
      · cases hd : detail? earlier c.thread <;> simp [openAs?, hc, hk, hd, Action.Ends]
      · simp [openAs?, hc, hk, Action.Ends]
    | closed k => by_cases hk : k = h <;> simp [openAs?, hc, hk, Action.Ends]
    | forget isOpen => cases ho : isOpen h <;> simp [openAs?, hc, ho, Action.Ends]

end History

end ResourceTrace.OpenFiles
