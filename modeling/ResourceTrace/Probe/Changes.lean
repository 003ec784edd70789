import ResourceTrace.Probe.Switch
import ResourceTrace.Output

set_option autoImplicit false

namespace ResourceTrace

inductive ChangeKind where
  | locale
  | timeZone
  | properties
  deriving DecidableEq, Repr

namespace ChangeKind

def all : List ChangeKind := [locale, timeZone, properties]

def commandName : ChangeKind → String
  | locale => "traceLocaleChange"
  | timeZone => "traceTimeZoneChange"
  | properties => "traceSysPropsChange"

def description : ChangeKind → String
  | locale => "Logs when the default locale is changed."
  | timeZone => "Traces when the default time zone is changed."
  | properties => "Traces changes to the system properties."

def logger : ChangeKind → Nat
  | locale => Logger.localeChanges
  | timeZone => Logger.timeZoneChanges
  | properties => Logger.propertyChanges

def command (kind : ChangeKind) : Command :=
  Command.create kind.commandName kind.description Output.options

end ChangeKind

/-- A value that is absent was not set before, or is removed. -/
structure Change where
  key : Option String
  old : Option String
  new : Option String
  deriving DecidableEq, Repr

namespace Change

def keyPosition : Nat := 0

def newPosition : Nat := 1

def oldPosition : Nat := 2

def ofEvent (event : Buffer) : Change where
  key := (event.at? keyPosition).bind Value.str?
  new := (event.at? newPosition).bind Value.str?
  old := (event.at? oldPosition).bind Value.str?

def staged : Option String → Value
  | some s => .str s
  | none => .null

def isReal (c : Change) : Bool := c.old != c.new

def message (c : Change) (kind : ChangeKind) : String :=
  let key := c.key.getD "null"
  let old := c.old.getD "null"
  let new := c.new.getD "null"
  match kind with
  | .locale => s!"Changed default locale for category '{key}' from '{old}' to '{new}'."
  | .timeZone => s!"Changed default time zone to {key} ({new})."
  | .properties =>
    if c.new.isSome then s!"System property '{key}' changed from '{old}' to '{new}'"
    else s!"System properties '{key}' with value '{old}' removed"

end Change

structure Changes where
  locale : Switch := { command := ChangeKind.locale.command }
  timeZone : Switch := { command := ChangeKind.timeZone.command }
  properties : Switch := { command := ChangeKind.properties.command }
  deriving DecidableEq, Repr

namespace Changes

def switch (c : Changes) : ChangeKind → Switch
  | .locale => c.locale
  | .timeZone => c.timeZone
  | .properties => c.properties

def commands (c : Changes) : List Command := ChangeKind.all.map fun kind => (c.switch kind).command

def configure (c : Changes) (name line : String) : Changes where
  locale := c.locale.configure name line
  timeZone := c.timeZone.configure name line
  properties := c.properties.configure name line

end Changes

end ResourceTrace
