import ResourceTrace.OptionLine.Reading

set_option autoImplicit false

namespace ResourceTrace

structure Schedule where
  count : Nat
  interval : Nat
  delay : Nat
  exitAfterLast : Bool
  deriving DecidableEq, Repr

namespace Schedule

def options : List (String × String) :=
  [("dumpCount", "Number of periodic dumps to perform. 0 disables periodic dumps."),
   ("dumpInterval", "Interval between periodic dumps, e.g. '30s', '1h30m'. Default 1h."),
   ("dumpDelay", "Delay before the first periodic dump. Defaults to the interval."),
   ("exitAfterLastDump", "If true, the process exits after the last periodic dump.")]

def defaultInterval : Int := 3600

/-- Negative numbers count as zero. -/
def read (o : OptionLine) : Noted Schedule := do
  let interval ← o.duration "dumpInterval" defaultInterval
  let delay ← o.duration "dumpDelay" interval
  let count ← o.long "dumpCount" 0
  return ⟨count.toNat, interval.toNat, delay.toNat, o.isSet "exitAfterLastDump" false⟩

def isEnabled (s : Schedule) : Bool := decide (0 < s.count)

inductive Next where
  | sleep (left : Nat)
  | done (exits : Bool)
  deriving DecidableEq, Repr

def progressLine (name : String) (s : Schedule) (left : Nat) : String :=
  s!"{name} dump {s.count - left} of {s.count}."

def closingLine (name : String) : String := s!"{name} dumps finished. Exiting."

/-- The lines that follow an attempt with `left` dumps to go, and what comes next. -/
def afterAttempt (s : Schedule) (name : String) (left : Nat) (emitted : Bool) :
    List String × Next :=
  let left' := if emitted then left - 1 else left
  let progress := if emitted then [progressLine name s left'] else []
  if 0 < left' then (progress, .sleep left')
  else if s.exitAfterLast then (progress ++ [closingLine name], .done true)
  else (progress, .done false)

inductive Status where
  | disabled
  | finished
  | stopped
  deriving DecidableEq, Repr

inductive Event where
  | sleep (secs : Nat)
  | attempt (emitted : Bool)
  | line (text : String)
  | exit (code : Nat)
  deriving DecidableEq, Repr

namespace Event

def isAttempt : Event → Bool
  | attempt _ => true
  | _ => false

def secs? : Event → Option Nat
  | sleep secs => some secs
  | _ => none

def text? : Event → Option String
  | line text => some text
  | _ => none

def code? : Event → Option Nat
  | exit code => some code
  | _ => none

end Event

/-- The course of a dumper whose attempts have known outcomes: all that it does, in order. -/
structure Run where
  status : Status
  events : List Event
  deriving DecidableEq, Repr

namespace Run

def attempts (r : Run) : Nat := r.events.countP Event.isAttempt

def sleeps (r : Run) : List Nat := r.events.filterMap Event.secs?

def lines (r : Run) : List String := r.events.filterMap Event.text?

def exitCodes (r : Run) : List Nat := r.events.filterMap Event.code?

def exits (r : Run) : Bool := !r.exitCodes.isEmpty

end Run

def turn (emitted : Bool) (lines : List String) : List Event :=
  .attempt emitted :: lines.map Event.line

/-- Goes on with `left` dumps to make; the run stops where the outcomes end. -/
def runFrom (s : Schedule) (name : String) : Nat → List Bool → Run
  | _, [] => ⟨.stopped, []⟩
  | left, emitted :: outcomes =>
    match s.afterAttempt name left emitted with
    | (lines, .done exits) =>
      ⟨.finished, turn emitted lines ++ if exits then [.exit 0] else []⟩
    | (lines, .sleep left') =>
      let later := runFrom s name left' outcomes
      { later with events := turn emitted lines ++ .sleep s.interval :: later.events }

def run (s : Schedule) (name : String) (outcomes : List Bool) : Run :=
  if s.isEnabled then
    let later := s.runFrom name s.count outcomes
    { later with events := .sleep s.delay :: later.events }
  else ⟨.disabled, []⟩

end Schedule

end ResourceTrace
