import ResourceTrace.Value
import ResourceTrace.Keyed

/-!
Staging of events. An event is put together from several probe calls at one call site: probes
write values at positions, and the last one takes them all, in order of position, and leaves
the buffer empty. Each thread has its own buffer for each logger of each table.
-/

set_option autoImplicit false

namespace ResourceTrace

inductive StagingError where
  | loggerOutOfRange (index capacity : Nat)
  | positionOutOfRange (position most : Nat)
  deriving DecidableEq, Repr

def StagingError.message : StagingError → String
  | loggerOutOfRange index capacity =>
    s!"Logger index {index} out of range (only {capacity} loggers)"
  | positionOutOfRange position most =>
    s!"Slot position {position} out of range (at most {most} positions)"

/-- The values of one event so far, by position. -/
abbrev Buffer := List Value

namespace Buffer

def capacity : Nat := 64

/-- Writes at a position; positions that were skipped hold `null`. -/
def write (b : Buffer) (position : Nat) (v : Value) : Buffer :=
  List.set (b ++ List.replicate (position + 1 - b.length) Value.null) position v

def stage (b : Buffer) (position : Nat) (v : Value) : Except StagingError Buffer :=
  if position < capacity then .ok (b.write position v)
  else .error (.positionOutOfRange position capacity)

/-- Writes behind the highest position written so far, and answers that position. -/
def push (b : Buffer) (v : Value) : Except StagingError (Nat × Buffer) :=
  if b.length < capacity then .ok (b.length, b ++ [v])
  else .error (.positionOutOfRange b.length capacity)

def at? (b : Buffer) (position : Nat) : Option Value := b[position]?

end Buffer

/-- A table of loggers; tables never share their buffers. -/
structure LoggerTable where
  id : Nat
  capacity : Nat
  deriving DecidableEq, Repr

structure Site where
  thread : Nat
  table : Nat
  logger : Nat
  deriving DecidableEq, Repr

structure Staging where
  buffers : Keyed Site Buffer := {}
  deriving DecidableEq, Repr

namespace Staging

def buffer (s : Staging) (site : Site) : Buffer := (s.buffers.get? site).getD []

def setBuffer (s : Staging) (site : Site) (b : Buffer) : Staging := ⟨s.buffers.put site b⟩

@[simp] theorem buffer_setBuffer_self (s : Staging) (site : Site) (b : Buffer) :
    (s.setBuffer site b).buffer site = b := by
  simp [buffer, setBuffer]

theorem buffer_setBuffer_of_ne {site other : Site} (h : other ≠ site) (s : Staging) (b : Buffer) :
    (s.setBuffer site b).buffer other = s.buffer other := by
  simp [buffer, setBuffer, Keyed.get?_put_of_ne h]

def check (t : LoggerTable) (logger : Nat) : Except StagingError Unit :=
  if logger < t.capacity then .ok () else .error (.loggerOutOfRange logger t.capacity)

def stage (s : Staging) (t : LoggerTable) (thread logger position : Nat) (v : Value) :
    Except StagingError Staging := do
  check t logger
  let site : Site := ⟨thread, t.id, logger⟩
  let b ← (s.buffer site).stage position v
  return s.setBuffer site b

def push (s : Staging) (t : LoggerTable) (thread logger : Nat) (v : Value) :
    Except StagingError (Nat × Staging) := do
  check t logger
  let site : Site := ⟨thread, t.id, logger⟩
  let (position, b) ← (s.buffer site).push v
  return (position, s.setBuffer site b)

def finalize (s : Staging) (t : LoggerTable) (thread logger : Nat) :
    Except StagingError (Buffer × Staging) := do
  check t logger
  let site : Site := ⟨thread, t.id, logger⟩
  return (s.buffer site, s.setBuffer site [])

/-- Pushes a last value and closes the event, which is closed even when it was full. -/
def finalizeWith (s : Staging) (t : LoggerTable) (thread logger : Nat) (v : Value) :
    Except StagingError Buffer × Staging :=
  match s.push t thread logger v with
  | .ok (_, pushed) =>
    match pushed.finalize t thread logger with
    | .ok (b, closed) => (.ok b, closed)
    | .error e => (.error e, pushed)
  | .error e =>
    match s.finalize t thread logger with
    | .ok (_, closed) => (.error e, closed)
    | .error e' => (.error e', s)

end Staging

end ResourceTrace
