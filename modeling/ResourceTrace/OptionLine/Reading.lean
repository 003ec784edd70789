import ResourceTrace.OptionLine
import ResourceTrace.Magnitude
import ResourceTrace.Decimal.Reading
import ResourceTrace.Pattern
import ResourceTrace.Noted

/-!
Typed access to the settings of a line. Each kind of value has a strict reader, which answers
the error, and a lenient one, which reports the error and falls back to a default. A malformed
small integer alone is fatal: its reader answers the report in place of a value.
-/

set_option autoImplicit false

namespace ResourceTrace.OptionLine

/-- The text of a key, nothing if the key is absent; a flag lacks its value. -/
def strict {α : Type} (o : OptionLine) (key : String) (read : String → Except OptionError α) :
    Except OptionError (Option α) :=
  match o.pairs.get? key with
  | none => .ok none
  | some none => .error .missingValue
  | some (some value) => (read value).map some

def describe (o : OptionLine) (key : String) (e : OptionError) : List String :=
  let value := ((o.pairs.get? key).getD none).getD "<empty>"
  let command := (o.command.map Command.name).getD "<none>"
  [s!"Error in option {key}={value} for command '{command}'", e.message]

def lenient {α : Type} (o : OptionLine) (key : String) (default : α) :
    Except OptionError (Option α) → Noted α
  | .ok value => pure (value.getD default)
  | .error e => ⟨default, o.describe key e⟩

/-- The text, or the default if the key is absent. A flag has no text. -/
def text? (o : OptionLine) (key : String) (default : Option String) : Option String :=
  (o.pairs.get? key).getD default

/-- A flag and the word `true` in any case are true. -/
def isSet (o : OptionLine) (key : String) (default : Bool) : Bool :=
  match o.pairs.get? key with
  | none => default
  | some none => true
  | some (some value) => value.toList.map Char.toLower == ['t', 'r', 'u', 'e']

def readInt32 (value : String) : Except OptionError Int :=
  match Numeral.readInt32? value.toList with
  | some i => .ok i
  | none => .error (.invalidInteger value)

def readInt64 (value : String) : Except OptionError Int :=
  match Numeral.readInt64? value.toList with
  | some i => .ok i
  | none => .error (.invalidInteger value)

def readNumber (value : String) : Except OptionError Float :=
  match Decimal.read? value.toList with
  | some x => .ok x
  | none => .error (.invalidNumber value)

def readPattern [PatternEngine] (value : String) : Except OptionError Pattern :=
  match Pattern.compile value with
  | .ok p => .ok p
  | .error reason => .error (.invalidPattern value reason)

def int? (o : OptionLine) (key : String) : Except OptionError (Option Int) :=
  o.strict key readInt32

def long? (o : OptionLine) (key : String) : Except OptionError (Option Int) :=
  o.strict key readInt64

def number? (o : OptionLine) (key : String) : Except OptionError (Option Float) :=
  o.strict key readNumber

def size? (o : OptionLine) (key : String) : Except OptionError (Option Int) :=
  o.strict key (Magnitude.parse Magnitude.sizeUnits)

def duration? (o : OptionLine) (key : String) : Except OptionError (Option Int) :=
  o.strict key (Magnitude.parse Magnitude.durationUnits)

def pattern? [PatternEngine] (o : OptionLine) (key : String) :
    Except OptionError (Option Pattern) :=
  o.strict key readPattern

def int (o : OptionLine) (key : String) (default : Int) : Except (List String) Int :=
  match o.int? key with
  | .ok value => .ok (value.getD default)
  | .error e => .error (o.describe key e)

def long (o : OptionLine) (key : String) (default : Int) : Noted Int :=
  o.lenient key default (o.long? key)

def number (o : OptionLine) (key : String) (default : Float) : Noted Float :=
  o.lenient key default (o.number? key)

def size (o : OptionLine) (key : String) (default : Int) : Noted Int :=
  o.lenient key default (o.size? key)

def duration (o : OptionLine) (key : String) (default : Int) : Noted Int :=
  o.lenient key default (o.duration? key)

def pattern [PatternEngine] (o : OptionLine) (key : String) (default : Option Pattern) :
    Noted (Option Pattern) :=
  match o.pattern? key with
  | .ok (some p) => pure (some p)
  | .ok none => pure default
  | .error e => ⟨default, o.describe key e⟩

end ResourceTrace.OptionLine
