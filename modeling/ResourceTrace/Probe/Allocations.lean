import ResourceTrace.Probe.Switch
import ResourceTrace.Dump.Report
import ResourceTrace.Dump.Schedule
import ResourceTrace.Output

/-!
Native allocations. A call site stages the requested size and, when it reallocates, the
previous pointer; the returned pointer closes the event. A call that contradicts the ledger is
believed: its record replaces the one that is in the way, with a warning.
-/

set_option autoImplicit false

namespace ResourceTrace

structure Allocations where
  ledger : Ledger Unit := {}
  throttle : Nat := 0
  trace : Switch
  deriving DecidableEq, Repr

namespace Allocations

def dumpCommand : Command :=
  (Command.create "nativeAllocations" "Dump the currently live native memory allocations."
    DumpFilter.options).addOptions [Output.destOption]

def traceCommand : Command :=
  ((dumpCommand.derive "traceNativeAllocations" "Traces native memory allocations." []).addOptions
    Output.options).addOptions Schedule.options

def periodicName : String := "Native memory allocation"

def create : Allocations := { trace := { command := traceCommand } }

def sizePosition : Nat := 0

def oldPosition : Nat := 1

/-- A size that is too large for a signed number is staged as a reference. -/
def sizeValue (size : Nat) : Value :=
  if (size : Int) ≤ Numeral.maxInt64 then .int size else .ref size

abbrev Settled := Ledger Unit × List String

def allocate (l : Ledger Unit) (r : Record Unit) : Settled :=
  if r.handle.isNull then (l, [])
  else match l.add r with
    | .ok l' => (l', [])
    | .error _ =>
      ((l.replace r).2,
        [s!"allocation at already tracked {r.handle.text}, replacing record"])

/-- Records a reallocation; a null result for a size is a failed one. -/
def reallocate (l : Ledger Unit) (old : Handle) (r : Record Unit) : Settled :=
  if r.handle.isNull && decide (0 < r.size) then (l, [])
  else match l.reallocate old r with
    | (.ok _, l') => (l', [])
    | (.error _, l') =>
      ((l'.replace r).2,
        [s!"reallocation to already tracked {r.handle.text}, replacing record"])

def stagedSize? (event : Buffer) : Option Nat := (event.at? sizePosition).bind Value.natural?

def stagedOld (event : Buffer) : Handle :=
  ⟨((event.at? oldPosition).bind Value.natural?).getD 0⟩

/-- The ledger after an event that was closed with a result; without a size it says nothing. -/
def settle (l : Ledger Unit) (event : Buffer) (result : Handle) (stack : Stack) (now : Moment) :
    Settled :=
  match stagedSize? event with
  | none => (l, [])
  | some size =>
    if (stagedOld event).isNull then allocate l ⟨result, size, now, stack, ()⟩
    else
      let stack := if 0 < size then stack else []
      reallocate l (stagedOld event) ⟨result, size, now, stack, ()⟩

def free (l : Ledger Unit) (pointer : Handle) : Settled :=
  if pointer.isNull then (l, [])
  else match l.remove pointer with
    | .ok (_, l') => (l', [])
    | .error e => (l, [s!"free: {e.message}"])

end Allocations

end ResourceTrace
