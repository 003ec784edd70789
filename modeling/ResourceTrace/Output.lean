import ResourceTrace.Output.Destination
import ResourceTrace.Output.Disk
import ResourceTrace.OptionLine.Reading
import ResourceTrace.Stack

/-!
Output lines and where they end up. A file is opened when its destination is first used and
stays open; one that cannot be opened, or that fails a write, is replaced by the error stream
for good, after a line that says so. No line is lost.
-/

set_option autoImplicit false

namespace ResourceTrace

/-- Whether the two console sinks keep their lines to themselves or write to the streams of the
process. -/
inductive Console where
  | memory
  | streams
  deriving DecidableEq, Repr

/-- A sink is known by its destination: two uses of one destination yield the same sink. -/
inductive Sink where
  | stdout
  | stderr
  | nowhere
  | file (dest : String)
  deriving DecidableEq, Repr

def Sink.isEnabled : Sink → Bool
  | .nowhere => false
  | _ => true

inductive FileState where
  | opened (opening : Opening)
  | unopenable
  | failed
  deriving DecidableEq, Repr

/-- Everything written so far: the lines of the two console sinks, the lines written straight to
the streams of the process, the warnings, and the files. -/
structure Output where
  host : Host := Host.emptyDirectory
  console : Console := .memory
  out : List String := []
  err : List String := []
  stdout : List String := []
  stderr : List String := []
  warnings : List String := []
  dests : Keyed String FileState := {}
  files : Files := {}

namespace Output

def print (o : Output) (line : String) : Output := { o with stdout := o.stdout ++ [line] }

def complain (o : Output) (line : String) : Output := { o with stderr := o.stderr ++ [line] }

def complainAll (o : Output) (lines : List String) : Output := lines.foldl complain o

def warn (o : Output) (message : String) : Output :=
  { o with warnings := o.warnings ++ [message] }

def toOut (o : Output) (line : String) : Output :=
  match o.console with
  | .memory => { o with out := o.out ++ [line] }
  | .streams => o.print line

def toErr (o : Output) (line : String) : Output :=
  match o.console with
  | .memory => { o with err := o.err ++ [line] }
  | .streams => o.complain line

def unopenableLine (dest : String) : String :=
  s!"Could not open file '{dest}' for output. Using stderr instead."

def failedLine (dest : String) : String :=
  s!"Could not write to file '{dest}'. Using stderr instead."

def openFile (o : Output) (dest path : String) (append : Bool) : Sink × Output :=
  match o.host.locate path with
  | none =>
    (.stderr, { o with dests := o.dests.put dest .unopenable }.toErr (unopenableLine dest))
  | some file =>
    let kept := if append then Files.contents o.files file else []
    (.file dest,
      { o with
        dests := o.dests.put dest (.opened { file, append })
        files := o.files.put file kept })

def resolveDest (o : Output) (dest : String) : Sink × Output :=
  match Destination.ofText dest with
  | .stdout => (.stdout, o)
  | .stderr => (.stderr, o)
  | .nowhere => (.nowhere, o)
  | .file path append =>
    match o.dests.get? dest with
    | some .unopenable => (.stderr, o)
    | some _ => (.file dest, o)
    | none => o.openFile dest path append

/-- The sink that a line asks for, the error stream unless it asks for one. -/
def resolve (o : Output) (options : OptionLine) : Sink × Output :=
  o.resolveDest ((options.text? "logDest" (some "stderr")).getD "stderr")

/-- Writes a line to an opened file, or gives the file up. -/
def writeFile (o : Output) (dest : String) (opening : Opening) (line : String) : Output :=
  if o.host.accepts opening.file opening.writes then
    let (bytes, opening') :=
      opening.write (Files.contents o.files opening.file) (line ++ "\n").toUTF8.toList
    { o with
      dests := o.dests.put dest (.opened opening')
      files := o.files.put opening.file bytes }
  else
    ({ o with dests := o.dests.put dest .failed }.toErr (failedLine dest)).toErr line

def write (o : Output) (sink : Sink) (line : String) : Output :=
  match sink with
  | .stdout => o.toOut line
  | .stderr => o.toErr line
  | .nowhere => o
  | .file dest =>
    match o.dests.get? dest with
    | some (.opened opening) => o.writeFile dest opening line
    | _ => o.toErr line

def writeAll (o : Output) (sink : Sink) (lines : List String) : Output :=
  lines.foldl (fun o line => o.write sink line) o

def logWithStack (o : Output) (sink : Sink) (stack : Stack) (message : String) : Output :=
  o.writeAll sink (message :: stack.lines)

def log (o : Output) (sink : Sink) (options : OptionLine) (stack : Stack) (message : String) :
    Output :=
  if options.isSet "logWithStack" false then o.logWithStack sink stack message
  else o.write sink message

def destHelp : String :=
  "Destination of the output: 'stdout', 'stderr', 'none' or a file name. " ++
    "Prefix the file name with '+' to append."

def destOption : String × String := ("logDest", destHelp)

def options : List (String × String) :=
  [destOption, ("logWithStack", "If true, each logged line is followed by the current call stack.")]

end Output

end ResourceTrace
