import ResourceTrace.Agent.Dumps
import ResourceTrace.CommandLine
import ResourceTrace.CommandLine.Arguments
import ResourceTrace.Pattern.Interpreter
import ResourceTrace.Snapshot
import ResourceTrace.Workload

set_option autoImplicit false

namespace ResourceTrace.Session

variable [PatternEngine]

inductive Outcome where
  | ended (code : Nat) (agent : Agent)
  | running (agent : Agent)

def exitSuccess : Nat := 0

def exitError : Nat := 1

def exitUsage : Nat := 2

def Outcome.next (o : Outcome) (f : Agent → Outcome) : Outcome :=
  match o with
  | .ended code a => .ended code a
  | .running a =>
    match a.ended with
    | some code => .ended code a
    | none => f a

/-- An agent at the console of the process, whose exit hook is the end of the process. -/
def freshAgent (host : Host) (now : Moment) : Agent :=
  { output := { host, console := .streams }, now, hook := .process }

/-- The configured commands with their lines: those of the traces, then those of the agent
arguments. -/
def groups (a : Agent) (args : Arguments) : Except ConfigError (List (String × String)) :=
  let traces := args.traces.map CommandLine.splitLine
  match args.agentArgs with
  | none => .ok traces
  | some text =>
    let isCommand := fun word => word == "help" || (a.command? word).isSome
    (CommandLine.splitAgentArgs isCommand text).map fun more => traces ++ more

def misuse (a : Agent) (e : ConfigError) : Outcome :=
  .ended exitUsage { a with output := a.output.complain e.message }.printCommands

def configureAll : List (String × String) → Agent → Outcome
  | [], a => .running a
  | (command, line) :: rest, a =>
    if command = "help" then .ended exitSuccess a.printCommands
    else match a.configure command line with
      | .error e => misuse a e
      | .ok a => configureAll rest a

/-- Configures and checks the commands and starts the agent, or ends the process early. -/
def startUp (args : Arguments) (a : Agent) : Outcome :=
  if args.list then .ended exitSuccess a.printCommands
  else match groups a args with
    | .error e => misuse a e
    | .ok groups =>
      (configureAll groups a).next fun a =>
        match a.check with
        | (some _, a) => .ended exitUsage a
        | (none, a) => .running a.start

def greeting (args : Arguments) (a : Agent) : List String :=
  let enabled := match groups a args with
    | .ok groups => groups.map Prod.fst
    | .error _ => []
  let traced := if enabled.isEmpty then "nothing" else " ".intercalate enabled
  let dumps := ", ".intercalate a.catalogue.names
  [s!"tracing: {traced}", s!"dumps: {dumps} (one request per line on stdin)"]

def greet (args : Arguments) (a : Agent) : Agent :=
  if args.quiet then a else a.complainAll (greeting args a)

/-- Attempts of a dumper that does not sleep. A silent attempt leaves everything as it was, so
that none after it would emit anything. -/
def drain : Nat → Dumper → Agent → Agent
  | 0, _, a => a
  | left + 1, d, a =>
    match a.attempt d with
    | (none, a) => a
    | (some d', a) => if d'.left < d.left then drain left d' a else a

def drainAll (a : Agent) : Outcome :=
  a.dumpers.foldl
    (fun o d => o.next fun a => .running (drain d.left d a))
    (.running { a with dumpers := [] })

/-- Serves one line of requests, and answers whether a dump was emitted. A blank line asks for
nothing. -/
def serve (a : Agent) (line : String) : Bool × Agent :=
  let request := Text.trim line.toList
  if request.isEmpty then (false, a) else a.request (String.ofList request)

def serveNext (s : Nat × Outcome) (line : String) : Nat × Outcome :=
  match s.2.next .running with
  | .ended code a => (s.1, .ended code a)
  | .running a =>
    let (emitted, a) := serve a line
    (if emitted then s.1 + 1 else s.1, .running a)

def serveAll (lines : List String) (a : Agent) : Nat × Outcome :=
  lines.foldl serveNext (0, .running a)

structure Progress where
  workload : Workload := {}
  dumps : Nat := 0
  agent : Agent

/-- One iteration of the workload, the periodic dumps that fall due as the clock moves on, and
the requests that have arrived; with the exit code if the process ended. -/
def Progress.turn (p : Progress) (secs : Nat) (requests : List String) : Progress × Option Nat :=
  let (workload, a) := Workload.step false (p.workload, p.agent)
  let (dumps, o) := requests.foldl serveNext (p.dumps, .running (a.advance secs))
  match o.next .running with
  | .ended code agent => ({ workload, dumps, agent }, some code)
  | .running agent => ({ workload, dumps, agent }, none)

structure Surroundings where
  elapsed : String
  unopenable : String
  full : String
  deriving DecidableEq, Repr

def summary (reason : String) (s : Surroundings) (dumps : Nat) (a : Agent) : String :=
  let allocations := a.allocations.ledger
  s!"{reason}: {s.elapsed}s, {dumps} dumps, {allocations.size} live allocations " ++
    s!"({allocations.total} bytes), {a.files.ledger.size} open files"

def fail (a : Agent) (context reason : String) : Outcome :=
  .ended exitError { a with output := a.output.complain s!"error: {context}: {reason}" }

def exportTo (path : String) (args : Arguments) (s : Surroundings) (a : Agent) : Outcome :=
  let o := a.output
  match o.host.locate path with
  | none => fail a "Failed to create snapshot output file" s.unopenable
  | some file =>
    if o.host.accepts file 0 then
      let bytes := (Snapshot.text .spread a.allocations.ledger).toUTF8.toList
      let o := { o with files := o.files.put file bytes }
      .ended exitSuccess { a with output := if args.quiet then o else o.print s!"saved: {path}" }
    else fail a "Failed to export snapshot" s.full

def close (args : Arguments) (reason : String) (s : Surroundings) (dumps : Nat) (a : Agent) :
    Outcome :=
  let a := if args.quiet then a else a.complainAll ["", summary reason s dumps a]
  match args.exportFile with
  | none => .ended exitSuccess a
  | some path => exportTo path args s a

inductive Ending where
  | interrupted
  | durationReached
  deriving DecidableEq, Repr

def Ending.reason : Ending → String
  | interrupted => "interrupted"
  | durationReached => "duration limit reached"

/-- What happens to a running session: so many iterations of the workload, then the requests,
then the end. -/
structure Course where
  iterations : Nat
  requests : List String
  ending : Ending
  debugging : Bool
  deriving DecidableEq, Repr

def runWorkload (c : Course) (a : Agent) : Agent :=
  (Workload.iterate c.debugging c.iterations ({}, Workload.begin a)).2

def run (args : Arguments) (c : Course) (s : Surroundings) (a : Agent) : Outcome :=
  (startUp args a).next fun a =>
    (drainAll (runWorkload c (greet args a))).next fun a =>
      let (dumps, o) := serveAll c.requests a
      o.next (close args c.ending.reason s dumps)

end ResourceTrace.Session
