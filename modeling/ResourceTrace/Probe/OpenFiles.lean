import ResourceTrace.Probe.Switch
import ResourceTrace.Dump.Filter
import ResourceTrace.Dump.Schedule
import ResourceTrace.Output

set_option autoImplicit false

namespace ResourceTrace

structure FileDetail where
  path : String
  mode : String
  deriving DecidableEq, Repr

structure OpenFiles where
  ledger : Ledger FileDetail := {}
  trace : Switch
  liveness : Option (Handle → Bool) := none

namespace OpenFiles

def dumpCommand : Command :=
  Command.create "openFiles" "Dump the files currently opened."
    [("mustContain", "A regexp which must match the file name to be printed."),
     ("mustNotContain", "A regexp which must not match the file name to be printed."),
     Output.destOption]

def traceCommand : Command :=
  ((dumpCommand.derive "traceOpenFiles" "Traces opened files." []).addOptions
    Output.options).addOptions Schedule.options

def periodicName : String := "Open files"

def create : OpenFiles := { trace := { command := traceCommand } }

def pathPosition : Nat := 0

def modePosition : Nat := 1

def defaultMode : String := "r"

def unknownPath : String := "<unknown file>"

def stagedPath? (event : Buffer) : Option String := (event.at? pathPosition).bind Value.str?

def stagedMode (event : Buffer) : String :=
  ((event.at? modePosition).bind Value.str?).getD defaultMode

/-- The ledger after an event that was closed with a handle, and the warnings; without a path
the event says nothing. -/
def settle (l : Ledger FileDetail) (event : Buffer) (handle : Handle) (stack : Stack)
    (now : Moment) : Ledger FileDetail × List String :=
  match stagedPath? event with
  | none => (l, [])
  | some path =>
    let r : Record FileDetail := ⟨handle, 0, now, stack, ⟨path, stagedMode event⟩⟩
    match l.add r with
    | .ok l' => (l', [])
    | .error _ =>
      ((l.replace r).2, [s!"open of already tracked {handle.text}, replacing record"])

def close (l : Ledger FileDetail) (handle : Handle) : String × Ledger FileDetail :=
  match l.remove handle with
  | .ok (r, l') => (r.detail.path, l')
  | .error _ => (unknownPath, l)

def forgetClosed (l : Ledger FileDetail) (isOpen : Handle → Bool) : Nat × Ledger FileDetail :=
  l.retain fun r => isOpen r.handle

def recordLines (r : Record FileDetail) : List String :=
  s!"File '{r.detail.path}', mode '{r.detail.mode}'" :: r.stack.lines

variable [PatternEngine]

def accepted (l : Ledger FileDetail) (f : DumpFilter) : List (Record FileDetail) :=
  l.byAge.filter fun r => f.acceptsLines [r.detail.path]

def dumpLines (l : Ledger FileDetail) (f : DumpFilter) : List String :=
  let printed := accepted l f
  if printed.isEmpty then []
  else
    printed.flatMap recordLines ++
      [s!"Printed {printed.length} of {l.size} file(s) currently opened."]

end OpenFiles

end ResourceTrace
