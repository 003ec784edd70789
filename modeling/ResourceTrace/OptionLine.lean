import ResourceTrace.Command
import ResourceTrace.Keyed

/-!
Option lines such as `key=value,flag,other=a\,b`.

Segments are separated by commas that do not follow a backslash, key and value by the first
such equals sign. A backslash stands for the character after it. Segments without a key are
dropped, a key without an equals sign is a flag, and a key that is repeated keeps its place and
takes the later value.
-/

set_option autoImplicit false

namespace ResourceTrace

/-- The settings of a line; a flag has no value. The line may be bound to the command that it
configures. -/
structure OptionLine where
  pairs : Keyed String (Option String) := {}
  command : Option Command := none
  deriving DecidableEq, Repr

namespace OptionLine

def readText (cs : List Char) : String := String.ofList (Text.unescape cs)

def readSegment? (segment : List Char) : Option (String × Option String) :=
  match Text.pieces '=' (some 2) segment with
  | [] => none
  | key :: value => if key.isEmpty then none else some (readText key, value.head?.map readText)

def readSegments (cs : List Char) : List (String × Option String) :=
  (Text.pieces ',' none cs).filterMap readSegment?

def parse (line : String) : OptionLine := { pairs := Keyed.ofList (readSegments line.toList) }

def forCommand (line : String) (command : Command) : OptionLine :=
  { parse line with command := some command }

def keys (o : OptionLine) : List String := o.pairs.keys

def has (o : OptionLine) (key : String) : Bool := o.pairs.contains key

def hasHelp (o : OptionLine) : Bool := o.has "help"

def unknownKey? (o : OptionLine) : Option String :=
  match o.command with
  | none => none
  | some command => o.keys.find? fun key => !command.hasOption key

def writeSetting : String × Option String → List Char
  | (key, none) => Text.escape key.toList
  | (key, some value) => Text.escape key.toList ++ '=' :: Text.escape value.toList

def write (pairs : List (String × Option String)) : String :=
  String.ofList (Text.join [','] (pairs.map writeSetting))

end OptionLine

end ResourceTrace
