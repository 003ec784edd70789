import ResourceTrace.OptionLine
import ResourceTrace.Event.Staging

set_option autoImplicit false

namespace ResourceTrace

structure Switch where
  command : Command
  line : Option OptionLine := none
  deriving DecidableEq, Repr

namespace Switch

def isOn (s : Switch) : Bool := s.line.isSome

def options (s : Switch) : OptionLine := s.line.getD (OptionLine.forCommand "" s.command)

def enable (s : Switch) (line : String) : Switch :=
  { s with line := some (OptionLine.forCommand line s.command) }

def configure (s : Switch) (name line : String) : Switch :=
  if s.command.name = name then s.enable line else s

end Switch

namespace Logger

def allocations : Nat := 0
def openFiles : Nat := 1
def localeChanges : Nat := 2
def timeZoneChanges : Nat := 3
def propertyChanges : Nat := 4

/-- The families of value loggers are numbered from 1. -/
def values (family : Nat) : Nat := 4 + family

def familyCount : Nat := 5

def count : Nat := 10

end Logger

end ResourceTrace
