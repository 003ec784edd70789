import ResourceTrace.Event.Format
import ResourceTrace.Event.ValueFilter
import ResourceTrace.Probe.Switch
import ResourceTrace.Output

set_option autoImplicit false

namespace ResourceTrace

structure FamilySettings where
  options : OptionLine
  format : Option String
  oncePerStack : Bool
  filters : List ValueFilter
  deriving DecidableEq, Repr

/-- The settings are read when the first event needs them. `seen` holds the stacks that were
logged since the family was last configured. -/
structure Family where
  number : Nat
  switch : Switch
  settings : Option FamilySettings := none
  seen : List (List String) := []
  deriving DecidableEq, Repr

variable [PatternEngine]

namespace FamilySettings

def read (o : OptionLine) : Noted FamilySettings := do
  let filters ← ValueFilter.readAll o o.keys
  return ⟨o, o.text? "format" none, o.isSet "oncePerStack" false, filters⟩

def message (s : FamilySettings) (family : Nat) (event : Buffer) : String :=
  Format.render (s.format.getD (Format.listing family event.length)) event

end FamilySettings

namespace Family

def command (number : Nat) : Command :=
  ((Command.create s!"logGeneric{number}"
    s!"Used to specify the logging options for generic logger {number}"
    [("format", "The format used to print the values. Use %s or %<idx>$s for the values."),
     ("oncePerStack", "If true, each distinct call stack is logged only once.")]).addOptions
    Output.options).addOptions FilterKind.options

def create (number : Nat) : Family := { number, switch := { command := command number } }

/-- Enables the family if it is the one named; what was read and seen before is forgotten. -/
def configure (f : Family) (name line : String) : Family :=
  if f.switch.command.name = name then
    { f with switch := f.switch.enable line, settings := none, seen := [] }
  else f

def settled (f : Family) : Noted FamilySettings :=
  match f.settings with
  | some s => pure s
  | none => FamilySettings.read f.switch.options

def log (f : Family) (event : Buffer) (stack : Stack) (o : Output) : Family × Output :=
  let s := f.settled
  let f := { f with settings := some s.value }
  let o := o.writeAll .stderr s.notes
  let frames := stack.map Frame.text
  if !s.value.filters.all (·.accepts event) then (f, o)
  else if s.value.oncePerStack && f.seen.contains frames then (f, o)
  else
    let f := if s.value.oncePerStack then { f with seen := frames :: f.seen } else f
    let (sink, o) := o.resolve s.value.options
    (f, o.log sink s.value.options stack (s.value.message f.number event))

end Family

end ResourceTrace
