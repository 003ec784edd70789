import ResourceTrace.Unicode.Lowercase
import ResourceTrace.Text.Cut

set_option autoImplicit false

namespace ResourceTrace

/-- The options are kept in the order of their keys, each key once. -/
structure Command where
  name : String
  description : String
  options : List (String × String)
  deriving DecidableEq, Repr

namespace Command

def insertOption (key help : String) : List (String × String) → List (String × String)
  | [] => [(key, help)]
  | (k, h) :: rest =>
    if key = k then (k, help) :: rest
    else if key < k then (key, help) :: (k, h) :: rest
    else (k, h) :: insertOption key help rest

def addOptions (c : Command) (options : List (String × String)) : Command :=
  { c with options := options.foldl (fun os o => insertOption o.1 o.2 os) c.options }

def create (name description : String) (options : List (String × String)) : Command :=
  (Command.mk name description []).addOptions options

def derive (parent : Command) (name description : String) (options : List (String × String)) :
    Command :=
  (Command.mk name description parent.options).addOptions options

def isSame (c d : Command) : Bool := c.name == d.name

def keys (c : Command) : List String := c.options.map Prod.fst

def placeholder : List Char := ['<', 'i', 'd', 'x', '>']

/-- Whether the key is the template with a run of digits in place of its first placeholder. -/
def matchesTemplate (template key : List Char) : Bool :=
  match Text.splitAtWord placeholder template with
  | none => false
  | some (front, back) =>
    match (Text.dropFront? front key).bind (Text.dropBack? back) with
    | none => false
    | some index => !index.isEmpty && index.all Char.isDigit

def hasOption (c : Command) (key : String) : Bool :=
  c.keys.contains key || c.keys.any fun template => matchesTemplate template.toList key.toList

def sortedOptions (c : Command) : List (String × String) :=
  c.options.mergeSort fun a b => decide (Unicode.lower a.1 ≤ Unicode.lower b.1)

def helpLines (c : Command) : List String :=
  let head := [s!"Help for command '{c.name}':", s!"Description: {c.description}"]
  if c.options.isEmpty then head
  else
    head ++ "The following options are supported:" ::
      c.sortedOptions.map fun (key, help) => s!"{key}: {help}"

end Command

end ResourceTrace
