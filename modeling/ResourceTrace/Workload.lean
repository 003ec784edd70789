import ResourceTrace.Agent

set_option autoImplicit false

namespace ResourceTrace

structure Workload where
  iteration : Nat := 0
  nextAddress : Nat := 0x100000
  nextDescriptor : Nat := 3
  live : List (Handle × Nat) := []
  opened : List Handle := []
  deriving DecidableEq, Repr

namespace Workload

def thread : Nat := 1

def requestFamily : Nat := 1

abbrev State := Workload × Agent

def begin (a : Agent) : Agent :=
  let a := a.stageKey thread .locale "FORMAT"
  let a := a.stageNewValue thread .locale (some "German (Germany)")
  (a.closeChange thread .locale (some "English (United States)")).2

def nextIteration (s : State) : State := ({ s.1 with iteration := s.1.iteration + 1 }, s.2)

def bufferSize (iteration : Nat) : Nat := 64 + iteration * 97 % 4096

def addBuffer (w : Workload) (size : Nat) : Workload :=
  { w with
    nextAddress := w.nextAddress + 0x1000
    live := w.live ++ [(⟨w.nextAddress⟩, size)] }

def allocate (s : State) : State :=
  let (w, a) := s
  let size := bufferSize w.iteration
  let a := a.stageSize thread size
  (w.addBuffer size, a.closeAllocation thread ⟨w.nextAddress⟩)

/-- Grows every third buffer to twice its size. -/
def grow (s : State) : State :=
  let (w, a) := s
  match w.iteration % 3, w.live.getLast? with
  | 0, some (old, size) =>
    let a := a.stageSize thread (size * 2)
    let a := a.stagePointer thread old
    ({ w with live := w.live.dropLast }.addBuffer (size * 2),
      a.closeAllocation thread ⟨w.nextAddress⟩)
  | _, _ => (w, a)

/-- Frees the oldest buffer, except in every eighth iteration, and never the only one. -/
def free (s : State) : State :=
  let (w, a) := s
  match w.live with
  | (oldest, _) :: second :: rest =>
    if w.iteration % 8 = 0 then (w, a)
    else ({ w with live := second :: rest }, a.free oldest)
  | _ => (w, a)

def path (iteration : Nat) : String := s!"/var/lib/app/segment-{iteration % 16}.dat"

def openFile (s : State) : State :=
  let (w, a) := s
  let a := a.stagePath thread (path w.iteration)
  let a := if w.iteration % 4 = 0 then a.stageMode thread "rw" else a
  let handle : Handle := ⟨w.nextDescriptor⟩
  ({ w with nextDescriptor := w.nextDescriptor + 1, opened := w.opened ++ [handle] },
    a.closeOpening thread handle)

/-- Lets go of the oldest file once there are more than eight. The agent hears of it only where
debug messages are logged, because the probe is part of such a message. -/
def rotate (debugging : Bool) (s : State) : State :=
  let (w, a) := s
  match w.opened with
  | [] => (w, a)
  | oldest :: rest =>
    if w.opened.length ≤ 8 then (w, a)
    else ({ w with opened := rest }, if debugging then (a.closeFile oldest).2 else a)

variable [PatternEngine]

def logRequest (s : State) : State :=
  let (w, a) := s
  let a := a.stageValue thread requestFamily (.str s!"/api/items/{w.iteration % 32}")
  (w, a.closeValues thread requestFamily (.int (w.iteration % 250 : Nat)))

def step (debugging : Bool) (s : State) : State :=
  logRequest (rotate debugging (openFile (free (grow (allocate (nextIteration s))))))

def iterate (debugging : Bool) : Nat → State → State
  | 0, s => s
  | n + 1, s => step debugging (iterate debugging n s)

end Workload

end ResourceTrace
