import ResourceTrace.Dump.Catalogue
import ResourceTrace.Probe.Allocations
import ResourceTrace.Probe.Changes
import ResourceTrace.Probe.OpenFiles
import ResourceTrace.Probe.ValueLog

set_option autoImplicit false

namespace ResourceTrace

inductive DumpKind where
  | allocations
  | openFiles
  deriving DecidableEq, Repr

/-- A periodic dumper, asleep until it wakes for its next attempt. -/
structure Dumper where
  kind : DumpKind
  name : String
  schedule : Schedule
  options : OptionLine
  sink : Sink
  left : Nat
  wakes : Moment
  deriving DecidableEq, Repr

inductive ExitHook where
  | record
  | process
  deriving DecidableEq, Repr

structure Agent where
  output : Output := {}
  staging : Staging := {}
  table : LoggerTable := ⟨0, Logger.count⟩
  stack : Stack := []
  now : Moment
  allocations : Allocations := Allocations.create
  files : OpenFiles := OpenFiles.create
  changes : Changes := {}
  families : List Family := (List.range Logger.familyCount).map fun i => Family.create (i + 1)
  /-- The enabled commands in the order in which they were last configured. -/
  configured : List (Command × String) := []
  started : Bool := false
  catalogue : Catalogue DumpKind := {}
  dumpers : List Dumper := []
  hook : ExitHook := .record
  exits : List Nat := []
  ended : Option Nat := none

namespace Agent

def warn (a : Agent) (message : String) : Agent := { a with output := a.output.warn message }

def warnAll (a : Agent) (messages : List String) : Agent := messages.foldl warn a

def resolve (a : Agent) (o : OptionLine) : Sink × Agent :=
  let (sink, output) := a.output.resolve o
  (sink, { a with output })

def writeAll (a : Agent) (sink : Sink) (lines : List String) : Agent :=
  { a with output := a.output.writeAll sink lines }

def complainAll (a : Agent) (lines : List String) : Agent :=
  { a with output := a.output.complainAll lines }

/-- Stages a value for a tracker; what cannot be staged is dropped with a warning. -/
def stage (a : Agent) (tracker : String) (thread logger position : Nat) (v : Value) : Agent :=
  match a.staging.stage a.table thread logger position v with
  | .ok staging => { a with staging }
  | .error e => a.warn s!"{tracker}: {e.message}"

def close? (a : Agent) (tracker : String) (thread logger : Nat) : Option Buffer × Agent :=
  match a.staging.finalize a.table thread logger with
  | .ok (event, staging) => (some event, { a with staging })
  | .error e => (none, a.warn s!"{tracker}: {e.message}")

def allocationProbe : String := "allocation probe"

def stageSize (a : Agent) (thread size : Nat) : Agent :=
  a.stage allocationProbe thread Logger.allocations Allocations.sizePosition
    (Allocations.sizeValue size)

def stagePointer (a : Agent) (thread : Nat) (old : Handle) : Agent :=
  a.stage allocationProbe thread Logger.allocations Allocations.oldPosition (.ref old.address)

def setAllocationLedger (a : Agent) (settled : Allocations.Settled) : Agent :=
  { a with allocations := { a.allocations with ledger := settled.1 } }.warnAll settled.2

def closeAllocation (a : Agent) (thread : Nat) (result : Handle) : Agent :=
  match a.close? allocationProbe thread Logger.allocations with
  | (none, a) => a
  | (some event, a) =>
    a.setAllocationLedger (Allocations.settle a.allocations.ledger event result a.stack a.now)

def free (a : Agent) (pointer : Handle) : Agent :=
  a.setAllocationLedger (Allocations.free a.allocations.ledger pointer)

def fileProbe : String := "open file probe"

def stagePath (a : Agent) (thread : Nat) (path : String) : Agent :=
  a.stage fileProbe thread Logger.openFiles OpenFiles.pathPosition (.str path)

def stageMode (a : Agent) (thread : Nat) (mode : String) : Agent :=
  a.stage fileProbe thread Logger.openFiles OpenFiles.modePosition (.str mode)

def setFileLedger (a : Agent) (ledger : Ledger FileDetail) : Agent :=
  { a with files := { a.files with ledger } }

def closeOpening (a : Agent) (thread : Nat) (handle : Handle) : Agent :=
  match a.close? fileProbe thread Logger.openFiles with
  | (none, a) => a
  | (some event, a) =>
    let (ledger, warnings) := OpenFiles.settle a.files.ledger event handle a.stack a.now
    (a.setFileLedger ledger).warnAll warnings

def closeFile (a : Agent) (handle : Handle) : String × Agent :=
  let (path, ledger) := OpenFiles.close a.files.ledger handle
  (path, a.setFileLedger ledger)

def forgetClosed (a : Agent) (isOpen : Handle → Bool) : Nat × Agent :=
  let (count, ledger) := OpenFiles.forgetClosed a.files.ledger isOpen
  (count, a.setFileLedger ledger)

def setLiveness (a : Agent) (isOpen : Handle → Bool) : Agent :=
  { a with files := { a.files with liveness := some isOpen } }

def changeProbe (kind : ChangeKind) : String := kind.commandName ++ " probe"

def stageChange (a : Agent) (thread : Nat) (kind : ChangeKind) (position : Nat) (v : Value) :
    Agent :=
  a.stage (changeProbe kind) thread kind.logger position v

def stageKey (a : Agent) (thread : Nat) (kind : ChangeKind) (key : String) : Agent :=
  a.stageChange thread kind Change.keyPosition (.str key)

def stageNewValue (a : Agent) (thread : Nat) (kind : ChangeKind) (v : Option String) : Agent :=
  a.stageChange thread kind Change.newPosition (Change.staged v)

def reportChange (a : Agent) (kind : ChangeKind) (c : Change) : Agent :=
  let switch := a.changes.switch kind
  if switch.isOn then
    let (sink, a) := a.resolve switch.options
    { a with output := a.output.logWithStack sink a.stack (c.message kind) }
  else a

/-- Closes a change with the old value, and answers whether anything changed. -/
def closeChange (a : Agent) (thread : Nat) (kind : ChangeKind) (old : Option String) :
    Bool × Agent :=
  let a := a.stageChange thread kind Change.oldPosition (Change.staged old)
  match a.close? (changeProbe kind) thread kind.logger with
  | (none, a) => (false, a)
  | (some event, a) =>
    let c := Change.ofEvent event
    if c.isReal then (true, a.reportChange kind c) else (false, a)

def family? (a : Agent) (number : Nat) : Option Family :=
  a.families.find? fun f => f.number == number

def setFamily (a : Agent) (f : Family) : Agent :=
  { a with families := a.families.map fun g => if g.number = f.number then f else g }

def noSuchFamily (number : Nat) : String := s!"generic logger {number} does not exist"

def stageValue (a : Agent) (thread number : Nat) (v : Value) : Agent :=
  match a.family? number with
  | none => a.warn (noSuchFamily number)
  | some _ =>
    match a.staging.push a.table thread (Logger.values number) v with
    | .ok (_, staging) => { a with staging }
    | .error e => a.warn s!"generic logger {number}: {e.message}"

variable [PatternEngine]

/-- Stages a last value, closes the event and logs it if the family is enabled. -/
def closeValues (a : Agent) (thread number : Nat) (v : Value) : Agent :=
  match a.family? number with
  | none => a.warn (noSuchFamily number)
  | some f =>
    match a.staging.finalizeWith a.table thread (Logger.values number) v with
    | (.ok event, staging) =>
      let a := { a with staging }
      if f.switch.isOn then
        let (f, output) := f.log event a.stack a.output
        { a with output }.setFamily f
      else a
    | (.error e, staging) => { a with staging }.warn s!"generic logger {number}: {e.message}"

end Agent

end ResourceTrace
