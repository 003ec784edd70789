import ResourceTrace.Event.Staging
import ResourceTrace.OptionLine.Reading

set_option autoImplicit false

namespace ResourceTrace

inductive FilterKind where
  | maxLong
  | minLong
  | maxDouble
  | minDouble
  | equals
  | startsWith
  | endsWith
  | contains
  | matchesRegexp
  deriving DecidableEq, Repr

namespace FilterKind

def all : List FilterKind :=
  [maxLong, minLong, maxDouble, minDouble, equals, startsWith, endsWith, contains, matchesRegexp]

def front : FilterKind → String
  | maxLong => "maxLongValue"
  | minLong => "minLongValue"
  | maxDouble => "maxDoubleValue"
  | minDouble => "minDoubleValue"
  | equals => "equalsValue"
  | startsWith | endsWith | contains | matchesRegexp => "value"

def back : FilterKind → String
  | startsWith => "StartsWith"
  | endsWith => "EndsWith"
  | contains => "Contains"
  | matchesRegexp => "MatchesRegexp"
  | _ => ""

def help : FilterKind → String
  | maxLong => "The maximum integral value of the value with the given index."
  | minLong => "The minimum integral value of the value with the given index."
  | maxDouble => "The maximum value of the value with the given index."
  | minDouble => "The minimum value of the value with the given index."
  | equals => "The value with the given index must equal this value."
  | startsWith => "The value with the given index must start with this string."
  | endsWith => "The value with the given index must end with this string."
  | contains => "The value with the given index must contain this string."
  | matchesRegexp => "A regexp which must match the value with the given index."

def template (k : FilterKind) : String := k.front ++ "<idx>" ++ k.back

def options : List (String × String) := all.map fun k => (k.template, k.help)

def number? (k : FilterKind) (key : List Char) : Option Nat := do
  let rest ← Text.dropFront? k.front.toList key
  let digits ← Text.dropBack? k.back.toList rest
  Numeral.readUnsigned? Numeral.maxUnsigned64 digits

def ofKey? (key : String) : Option (Nat × FilterKind) :=
  all.findSome? fun k => (k.number? key.toList).map fun number => (number, k)

end FilterKind

inductive ValueCheck where
  | maxLong (bound : Int)
  | minLong (bound : Int)
  | maxDouble (bound : Float)
  | minDouble (bound : Float)
  | equals (expected : String)
  | startsWith (front : String)
  | endsWith (back : String)
  | contains (part : String)
  | matchesRegexp (pattern : Pattern)
  deriving DecidableEq, Repr

variable [PatternEngine]

namespace ValueCheck

/-- Equality with a text: numbers are compared as numbers, all else by its text. -/
def equalsText (v : Value) (expected : String) : Bool :=
  match v with
  | .null => expected == "null"
  | .int i => Numeral.readInt64? expected.toList == some i
  | .float x =>
    match Decimal.read? expected.toList with
    | some y => y == x
    | none => false
  | v => v.text == expected

/-- Whether the text of a value has a property; a missing value has no text. -/
def onText (v : Value) (p : List Char → Bool) : Bool :=
  match v.text? with
  | some t => p t.toList
  | none => false

def onNumber (v : Value) (p : Float → Bool) : Bool :=
  match v.number? with
  | some x => p x
  | none => false

def accepts (check : ValueCheck) (v : Value) : Bool :=
  match check with
  | maxLong bound =>
    match v with
    | .int i => decide (i ≤ bound)
    | .float x => decide (x ≤ Float.ofInt bound)
    | _ => false
  | minLong bound =>
    match v with
    | .int i => decide (bound ≤ i)
    | .float x => decide (Float.ofInt bound ≤ x)
    | _ => false
  | maxDouble bound => onNumber v fun x => decide (x ≤ bound)
  | minDouble bound => onNumber v fun x => decide (bound ≤ x)
  | equals expected => equalsText v expected
  | startsWith front => onText v fun t => (Text.dropFront? front.toList t).isSome
  | endsWith back => onText v fun t => (Text.dropBack? back.toList t).isSome
  | contains part => onText v fun t => Text.occursIn part.toList t
  | matchesRegexp pattern => onText v fun t => pattern.isFoundIn (String.ofList t)

end ValueCheck

/-- A check on the value at a position, counted from 0. -/
structure ValueFilter where
  position : Nat
  check : ValueCheck
  deriving DecidableEq, Repr

namespace ValueFilter

def accepts (f : ValueFilter) (event : Buffer) : Bool :=
  f.check.accepts ((event.at? f.position).getD Value.null)

/-- A malformed numeric bound counts as zero. -/
def bound {α : Type} (o : OptionLine) (key : String) (zero : α)
    (read : Except OptionError (Option α)) (check : α → ValueCheck) :
    Noted (Option ValueCheck) :=
  match read with
  | .ok value => pure (value.map check)
  | .error e => ⟨some (check zero), o.describe key e⟩

/-- The check of an option, with the report on a value that is malformed. A flag asks for no
check of a text, and a malformed pattern for none either. -/
def readCheck (o : OptionLine) (key : String) (kind : FilterKind) : Noted (Option ValueCheck) :=
  let text := o.text? key none
  match kind with
  | .maxLong => bound o key 0 (o.long? key) .maxLong
  | .minLong => bound o key 0 (o.long? key) .minLong
  | .maxDouble => bound o key 0.0 (o.number? key) .maxDouble
  | .minDouble => bound o key 0.0 (o.number? key) .minDouble
  | .equals => pure (text.map .equals)
  | .startsWith => pure (text.map .startsWith)
  | .endsWith => pure (text.map .endsWith)
  | .contains => pure (text.map .contains)
  | .matchesRegexp => do
    let pattern ← o.pattern key none
    return pattern.map .matchesRegexp

def read (o : OptionLine) (key : String) : Noted (Option ValueFilter) :=
  match FilterKind.ofKey? key with
  | none => pure none
  | some (0, _) => pure none
  | some (number + 1, kind) => do
    let check ← readCheck o key kind
    return check.map fun c => ⟨number, c⟩

def readAll (o : OptionLine) : List String → Noted (List ValueFilter)
  | [] => pure []
  | key :: keys => do
    let first ← read o key
    let rest ← readAll o keys
    return first.toList ++ rest

end ValueFilter

end ResourceTrace
