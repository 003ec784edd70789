import ResourceTrace.CommandLine.Usage
import ResourceTrace.Session
import Std.Internal.UV.Signal
import Std.Time.DateTime.Timestamp

set_option autoImplicit false

namespace ResourceTrace.Program

/-- What was handed to the disk: the files as the session knows them, and what stood in front of
them before. -/
structure Saved where
  files : Files := {}
  earlier : Keyed String ByteArray := {}

def isExtended (o : Output) (file : String) : Bool :=
  o.dests.values.any fun d =>
    match d with
    | .opened opening => opening.file == file && opening.append
    | _ => false

def held (o : Output) (saved : Saved) (file : String) : IO ByteArray :=
  match saved.earlier.get? file with
  | some bytes => pure bytes
  | none => if isExtended o file then IO.FS.readBinFile file <|> pure .empty else pure .empty

def save (o : Output) (saved : Saved) (file : String) (bytes : List UInt8) : IO Saved := do
  if !Host.isRegular file || saved.files.get? file == some bytes then return saved
  let before ← held o saved file
  IO.FS.writeBinFile file (before ++ ⟨bytes.toArray⟩)
  return ⟨saved.files.put file bytes, saved.earlier.put file before⟩

def flush (a : Agent) (saved : Saved) : IO (Agent × Saved) := do
  let o := a.output
  o.stdout.forM fun line => IO.println line
  o.stderr.forM fun line => IO.eprintln line
  (← IO.getStdout).flush
  let saved ← o.files.toList.foldlM (fun saved entry => save o saved entry.1 entry.2) saved
  return ({ a with output := { o with stdout := [], stderr := [] } }, saved)

def exit (code : Nat) (a : Agent) (saved : Saved) : IO UInt32 := do
  let _ ← flush a saved
  return UInt32.ofNat code

partial def readRequests (input : IO.FS.Stream) (lines : IO.Ref (List String)) : IO Unit := do
  let line ← input.getLine
  if !line.isEmpty then
    lines.modify (· ++ [line])
    readRequests input lines

structure Inputs where
  arguments : Arguments
  startMillis : Nat
  requests : IO.Ref (List String)
  interrupt : IO.Promise Int

def ending? (i : Inputs) (elapsedMillis : Nat) : IO (Option Session.Ending) := do
  let limit := i.arguments.duration * 1000
  if 0 < limit && limit ≤ elapsedMillis then return some .durationReached
  return if ← i.interrupt.isResolved then some .interrupted else none

def surroundings (elapsedMillis : Nat) : Session.Surroundings where
  elapsed := s!"{elapsedMillis / 1000}.{elapsedMillis % 1000 / 100}"
  unopenable := "the file cannot be opened"
  full := "No space left on device (os error 28)"

partial def run (i : Inputs) (p : Session.Progress) (saved : Saved) (secs : Nat) : IO UInt32 := do
  let elapsed := (← IO.monoMsNow) - i.startMillis
  match ← ending? i elapsed with
  | some ending =>
    match Session.close i.arguments ending.reason (surroundings elapsed) p.dumps p.agent with
    | .ended code a => exit code a saved
    | .running a => exit Session.exitSuccess a saved
  | none =>
    let requests ← i.requests.modifyGet fun lines => (lines, [])
    match p.turn (elapsed / 1000 - secs) requests with
    | (p, some code) => exit code p.agent saved
    | (p, none) =>
      let (agent, saved) ← flush p.agent saved
      IO.sleep (UInt32.ofNat i.arguments.stepMillis)
      run i { p with agent } saved (elapsed / 1000)

def start (arguments : Arguments) : IO UInt32 := do
  let now := (← Std.Time.Timestamp.now).toSecondsSinceUnixEpoch.val
  match Session.startUp arguments (Session.freshAgent .emptyDirectory (.ofSeconds now 0)) with
  | .ended code a => exit code a {}
  | .running a =>
    let requests ← IO.mkRef []
    let _ ← IO.asTask (readRequests (← IO.getStdin) requests) .dedicated
    let interrupt ← (← Std.Internal.UV.Signal.mk 2 false).next
    let agent := Workload.begin (Session.greet arguments a)
    run ⟨arguments, ← IO.monoMsNow, requests, interrupt⟩ { agent } {} 0

end ResourceTrace.Program

def main (args : List String) : IO UInt32 := do
  match ResourceTrace.Arguments.parse args with
  | .ok arguments => ResourceTrace.Program.start arguments
  | .error .displayHelp =>
    ResourceTrace.Arguments.usage.forM fun line => IO.println line
    return UInt32.ofNat ResourceTrace.Session.exitSuccess
  | .error e =>
    IO.eprintln s!"error: {e.message}"
    return UInt32.ofNat ResourceTrace.Session.exitUsage
