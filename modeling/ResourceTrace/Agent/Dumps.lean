import ResourceTrace.Agent

set_option autoImplicit false

namespace ResourceTrace.Agent

variable [PatternEngine]

def abort (a : Agent) (lines : List String) : Agent :=
  { a.complainAll lines with ended := some 1 }

def dumpAllocations (a : Agent) (o : OptionLine) : Bool × Agent :=
  let (sink, a) := a.resolve o
  if !sink.isEnabled then (false, a)
  else match DumpFilter.read o with
    | .error lines => (false, a.abort lines)
    | .ok filter =>
      let a := a.complainAll filter.notes
      let report :=
        Report.make a.allocations.ledger filter.value a.allocations.throttle a.now
          a.output.host.zone
      let a := { a with allocations := { a.allocations with throttle := report.throttle } }
      (report.emitted, a.writeAll sink report.lines)

def refreshFiles (a : Agent) : Agent :=
  match a.files.liveness with
  | none => a
  | some isOpen => (a.forgetClosed isOpen).2

def dumpFiles (a : Agent) (o : OptionLine) : Bool × Agent :=
  let (sink, a) := a.resolve o
  if !sink.isEnabled then (false, a)
  else
    let a := a.refreshFiles
    match DumpFilter.read o with
    | .error lines => (false, a.abort lines)
    | .ok filter =>
      let a := a.complainAll filter.notes
      let lines := OpenFiles.dumpLines a.files.ledger filter.value
      (!lines.isEmpty, a.writeAll sink lines)

def dump (a : Agent) (kind : DumpKind) (o : OptionLine) : Bool × Agent :=
  match kind with
  | .allocations => a.dumpAllocations o
  | .openFiles => a.dumpFiles o

def dumpHandlers : DumpHandlers DumpKind Agent where
  perform kind options a := a.dump kind options
  print lines a := a.writeAll .stdout lines
  complain lines a := a.writeAll .stderr lines

def request (a : Agent) (text : String) : Bool × Agent := a.catalogue.dispatch dumpHandlers text a

def register (a : Agent) (kind : DumpKind) (commands : List Command) : Agent :=
  { a with catalogue := commands.foldl (fun c command => c.register command kind) a.catalogue }

/-- Puts a dumper to sleep for an enabled command whose line asks for periodic dumps. -/
def arm (a : Agent) (kind : DumpKind) (name : String) (switch : Switch) : Agent :=
  if !switch.isOn then a
  else
    let options := switch.options
    let (sink, a) := a.resolve options
    let schedule := Schedule.read options
    let a := a.complainAll schedule.notes
    let s := schedule.value
    if s.isEnabled then
      let wakes := a.now.after s.delay
      { a with dumpers := a.dumpers ++ [⟨kind, name, s, options, sink, s.count, wakes⟩] }
    else a

/-- Registers the dumps and arms the periodic ones; only the first start has an effect. -/
def start (a : Agent) : Agent :=
  if a.started then a
  else
    let a := { a with started := true }
    let a := a.register .allocations [Allocations.dumpCommand, a.allocations.trace.command]
    let a := a.arm .allocations Allocations.periodicName a.allocations.trace
    let a := a.register .openFiles [OpenFiles.dumpCommand, a.files.trace.command]
    a.arm .openFiles OpenFiles.periodicName a.files.trace

def callExit (a : Agent) (code : Nat) : Agent :=
  match a.hook with
  | .record => { a with exits := a.exits ++ [code] }
  | .process => { a with ended := some code }

/-- One attempt of a dumper that woke up; answers the dumper if it sleeps again. -/
def attempt (a : Agent) (d : Dumper) : Option Dumper × Agent :=
  let (emitted, a) := a.dump d.kind d.options
  if a.ended.isSome then (none, a)
  else
    let (lines, next) := d.schedule.afterAttempt d.name d.left emitted
    let a := a.writeAll d.sink lines
    match next with
    | .sleep left => (some { d with left, wakes := a.now.after d.schedule.interval }, a)
    | .done exits => (none, if exits then a.callExit 0 else a)

/-- Of two dumpers the one that wakes first, the earlier armed one at one time. -/
def sooner (d e : Dumper) : Bool := decide (d.wakes.nanos ≤ e.wakes.nanos)

def takeFirst? : List Dumper → Option (Dumper × (Option Dumper → List Dumper))
  | [] => none
  | d :: ds =>
    match takeFirst? ds with
    | none => some (d, fun again => again.toList ++ ds)
    | some (e, fill) =>
      if sooner d e then some (d, fun again => again.toList ++ ds)
      else some (e, fun again => d :: fill again)

def wakeUntil (target : Moment) : Nat → Agent → Agent
  | 0, a => a
  | fuel + 1, a =>
    match takeFirst? a.dumpers with
    | none => a
    | some (d, fill) =>
      if a.ended.isSome || decide (target.nanos < d.wakes.nanos) then a
      else
        let (again, a) := { a with now := d.wakes }.attempt d
        wakeUntil target fuel { a with dumpers := fill again }

/-- More than the number of times that a dumper can wake within so many seconds. A dumper that
does not sleep between attempts is let go when its dumps stay silent. -/
def wakeBound (secs : Nat) (d : Dumper) : Nat := secs + d.left + 1

def advance (a : Agent) (secs : Nat) : Agent :=
  let target := a.now.after secs
  let fuel := a.dumpers.foldl (fun n d => n + wakeBound secs d) 0
  let a := wakeUntil target fuel a
  { a with now := target }

def sleeping (a : Agent) : List Nat :=
  let left := a.dumpers.map fun d => ((d.wakes.nanos - a.now.nanos) / Moment.nanosPerSecond).toNat
  left.mergeSort fun m n => decide (m ≤ n)

end ResourceTrace.Agent
