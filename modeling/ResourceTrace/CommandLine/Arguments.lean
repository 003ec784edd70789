import ResourceTrace.Text.Numeral
import ResourceTrace.Text.Cut

/-!
The arguments of the program. An option that takes a value finds it behind an equals sign, or
in the next argument unless that looks like an option; a short option also directly behind its
letter. An option is acted on when the next one is recognised or the arguments end, so that an
argument that is not recognised is reported before a missing value.
-/

set_option autoImplicit false

namespace ResourceTrace

structure Arguments where
  traces : List String := []
  agentArgs : Option String := none
  list : Bool := false
  exportFile : Option String := none
  duration : Nat := 0
  stepMillis : Nat := 50
  quiet : Bool := false
  deriving DecidableEq, Repr

inductive ArgumentError where
  | displayHelp
  | unknownArgument
  | invalidValue
  | valueValidation
  | argumentConflict
  | tooManyValues
  deriving DecidableEq, Repr

namespace Arguments

inductive Parameter where
  | trace
  | agentArgs
  | list
  | exportFile
  | duration
  | stepMillis
  | quiet
  | help
  deriving DecidableEq, Repr

namespace Parameter

def ofLong? (name : String) : Option Parameter :=
  match name with
  | "trace" => some trace
  | "agent-args" => some agentArgs
  | "list" => some list
  | "export" => some exportFile
  | "duration" => some duration
  | "step-ms" => some stepMillis
  | "quiet" => some quiet
  | "help" => some help
  | _ => none

def ofShort? (c : Char) : Option Parameter :=
  match c with
  | 't' => some trace
  | 'q' => some quiet
  | 'h' => some help
  | _ => none

def takesValue : Parameter → Bool
  | list | quiet | help => false
  | _ => true

end Parameter

/-- An option that was recognised but not acted on, with its value if that was found. -/
structure Pending where
  option : Parameter
  value : Option String
  deriving DecidableEq, Repr

structure Reader where
  arguments : Arguments := {}
  seen : List Parameter := []
  pending : Option Pending := none
  awaiting : Bool := false
  trailing : Bool := false
  deriving Repr

namespace Reader

def readNumber (value : String) : Except ArgumentError Nat :=
  let digits := match value.toList with
    | '+' :: ds => ds
    | ds => ds
  match Numeral.readUnsigned? Numeral.maxUnsigned64 digits with
  | some n => .ok n
  | none => .error .valueValidation

def store (a : Arguments) (value : String) : Parameter → Except ArgumentError Arguments
  | .trace => .ok { a with traces := a.traces ++ [value] }
  | .agentArgs => .ok { a with agentArgs := some value }
  | .exportFile =>
    if value.isEmpty then .error .invalidValue else .ok { a with exportFile := some value }
  | .duration => (readNumber value).map fun n => { a with duration := n }
  | .stepMillis => (readNumber value).map fun n => { a with stepMillis := n }
  | .list => .ok { a with list := true }
  | .quiet => .ok { a with quiet := true }
  | .help => .error .displayHelp

/-- Acts on an option. Only traces may be given several times. -/
def act (r : Reader) (p : Pending) : Except ArgumentError Reader :=
  if p.option.takesValue && p.value.isNone then .error .invalidValue
  else if p.option != .trace && r.seen.contains p.option then .error .argumentConflict
  else
    (store r.arguments (p.value.getD "") p.option).map fun arguments =>
      { r with arguments, seen := p.option :: r.seen, awaiting := false }

def settle (r : Reader) : Except ArgumentError Reader :=
  match r.pending with
  | none => .ok r
  | some p => { r with pending := none }.act p

def take (r : Reader) (o : Parameter) (attached : Option String) : Except ArgumentError Reader := do
  let r ← r.settle
  if o.takesValue && attached.isNone then
    return { r with pending := some ⟨o, none⟩, awaiting := true }
  else r.act ⟨o, attached⟩

def readLong (r : Reader) (text : List Char) : Except ArgumentError Reader :=
  let (name, attached) := match Text.splitAtFirst '=' text with
    | some (name, value) => (name, some (String.ofList value))
    | none => (text, none)
  match Parameter.ofLong? (String.ofList name) with
  | none => .error .unknownArgument
  | some o =>
    if !o.takesValue && attached.isSome then .error .tooManyValues else r.take o attached

/-- Letters behind one hyphen; the first that takes a value takes the rest as its value. -/
def readShort (r : Reader) : List Char → Except ArgumentError Reader
  | [] => .ok r
  | c :: cs =>
    match Parameter.ofShort? c with
    | none => .error .unknownArgument
    | some o =>
      if o.takesValue then
        match cs with
        | [] => r.take o none
        | '=' :: value => r.take o (some (String.ofList value))
        | value => r.take o (some (String.ofList value))
      else
        match r.take o none with
        | .ok r => readShort r cs
        | .error e => .error e

def readValue (r : Reader) (arg : String) : Except ArgumentError Reader :=
  match r.awaiting, r.pending with
  | true, some p => .ok { r with pending := some { p with value := some arg }, awaiting := false }
  | _, _ => .error .unknownArgument

def read (r : Reader) (arg : String) : Except ArgumentError Reader :=
  if r.trailing then .error .unknownArgument
  else
    match arg.toList with
    | ['-', '-'] => .ok { r with trailing := true }
    | '-' :: '-' :: text => r.readLong text
    | ['-'] => r.readValue arg
    | '-' :: letters => r.readShort letters
    | _ => r.readValue arg

end Reader

def parse (args : List String) : Except ArgumentError Arguments := do
  let r ← args.foldlM Reader.read {}
  let r ← r.settle
  return r.arguments

end Arguments

end ResourceTrace
