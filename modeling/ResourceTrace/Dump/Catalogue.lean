import ResourceTrace.OptionLine

set_option autoImplicit false

namespace ResourceTrace

inductive DispatchError where
  | unknownDump (name : String)
  | unknownHelpTopic (name : String)
  | unknownArgument (argument dump : String)
  deriving DecidableEq, Repr

def DispatchError.message : DispatchError → String
  | unknownDump name => s!"No dump registered for dump type '{name}'"
  | unknownHelpTopic name =>
    s!"Could not find dump type '{name}'. Use dump=help for a list of supported types."
  | unknownArgument argument dump => s!"Unknown argument '{argument}' for dump '{dump}'."

structure DumpEntry (α : Type) where
  command : Command
  action : α
  deriving Repr

structure Catalogue (α : Type) where
  entries : List (DumpEntry α) := []
  deriving Repr

inductive Routing (α : Type) where
  | list
  | help (command : Command)
  | perform (action : α) (name : String) (options : OptionLine)
  deriving Repr

/-- How dumps are performed, and what is done with the lines of help and with those about errors. -/
structure DumpHandlers (α σ : Type) where
  perform : α → OptionLine → σ → Bool × σ
  print : List String → σ → σ
  complain : List String → σ → σ

namespace Catalogue

variable {α σ : Type}

def insertEntry (e : DumpEntry α) : List (DumpEntry α) → List (DumpEntry α)
  | [] => [e]
  | d :: rest =>
    if e.command.name = d.command.name then e :: rest
    else if e.command.name < d.command.name then e :: d :: rest
    else d :: insertEntry e rest

/-- Registers a dump under the name of its command, in place of an earlier one. -/
def register (c : Catalogue α) (command : Command) (action : α) : Catalogue α :=
  ⟨insertEntry ⟨command, action⟩ c.entries⟩

def names (c : Catalogue α) : List String := c.entries.map fun e => e.command.name

def find? (c : Catalogue α) (name : String) : Option (DumpEntry α) :=
  c.entries.find? fun e => e.command.name == name

def splitRequest (request : List Char) : String × String :=
  match Text.splitAtFirst ',' request with
  | some (name, options) => (String.ofList name, String.ofList options)
  | none => (String.ofList request, "")

/-- A help option wins over an option that is not declared. -/
def routeDump (c : Catalogue α) (name options : String) : Except DispatchError (Routing α) :=
  match c.find? name with
  | none => .error (.unknownDump name)
  | some e =>
    let line := OptionLine.forCommand options e.command
    if line.hasHelp then .ok (.help e.command)
    else match line.unknownKey? with
      | some key => .error (.unknownArgument key name)
      | none => .ok (.perform e.action name line)

def route (c : Catalogue α) (request : String) : Except DispatchError (Routing α) :=
  if request = "help" then .ok .list
  else match Text.dropFront? "help:".toList request.toList with
    | some topic =>
      match c.find? (String.ofList topic) with
      | some e => .ok (.help e.command)
      | none => .error (.unknownHelpTopic (String.ofList topic))
    | none =>
      let (name, options) := splitRequest request.toList
      c.routeDump name options

def listLines (c : Catalogue α) : List String :=
  "The following dumps are supported:" ::
    (c.entries.map fun e => s!"{e.command.name}: {e.command.description}") ++
    ["Use dump=help:<dump> for all options for a specific dump."]

def helpText (c : Catalogue α) : Routing α → List String
  | .list => c.listLines
  | .help command => command.helpLines
  | .perform _ _ _ => []

def complaint (c : Catalogue α) (e : DispatchError) : List String :=
  e.message :: match e with
    | .unknownArgument _ dump =>
      match c.find? dump with
      | some entry => entry.command.helpLines
      | none => []
    | _ => []

def tryDispatch (c : Catalogue α) (h : DumpHandlers α σ) (request : String) (state : σ) :
    Except DispatchError Bool × σ :=
  match c.route request with
  | .error e => (.error e, state)
  | .ok (.perform action _ options) =>
    let (emitted, state) := h.perform action options state
    (.ok emitted, state)
  | .ok routing => (.ok false, h.print (c.helpText routing) state)

def dispatch (c : Catalogue α) (h : DumpHandlers α σ) (request : String) (state : σ) : Bool × σ :=
  match c.tryDispatch h request state with
  | (.ok emitted, state) => (emitted, state)
  | (.error e, state) => (false, h.complain (c.complaint e) state)

end Catalogue

end ResourceTrace
