import ResourceTrace.Agent

set_option autoImplicit false

namespace ResourceTrace

inductive ConfigError where
  | helpRequested (command : String)
  | unknownArgument (argument command : String)
  | unknownCommand (command : String)
  deriving DecidableEq, Repr

def ConfigError.message : ConfigError → String
  | helpRequested command => s!"Help requested for command '{command}'"
  | unknownArgument argument command =>
    s!"Unknown argument '{argument}' for command '{command}'."
  | unknownCommand command => s!"Unknown command '{command}'"

namespace Agent

def trackerCommands (a : Agent) : List (List Command) :=
  [[a.allocations.trace.command], [a.files.trace.command], a.changes.commands,
   a.families.map fun f => f.switch.command]

def commands (a : Agent) : List Command := a.trackerCommands.flatten

def command? (a : Agent) (name : String) : Option Command :=
  a.commands.find? fun c => c.name == name

def owners (a : Agent) (name : String) : List Bool :=
  a.trackerCommands.map fun cs => cs.any fun c => c.name == name

def enable (a : Agent) (name line : String) : Agent :=
  { a with
    allocations := { a.allocations with trace := a.allocations.trace.configure name line }
    files := { a.files with trace := a.files.trace.configure name line }
    changes := a.changes.configure name line
    families := a.families.map fun f => f.configure name line }

/-- Enables a command; its line takes the place of an earlier one and moves to the end. -/
def configure (a : Agent) (name line : String) : Except ConfigError Agent :=
  match a.command? name with
  | none => .error (.unknownCommand name)
  | some command =>
    let others := a.configured.filter fun entry => entry.1.name != name
    .ok { a.enable name line with configured := others ++ [(command, line)] }

/-- What is wrong with the line of a command: a request for help goes before an unknown key. -/
def lineError? (command : Command) (line : String) : Option ConfigError :=
  let o := OptionLine.forCommand line command
  if o.hasHelp then some (.helpRequested command.name)
  else o.unknownKey?.map fun key => .unknownArgument key command.name

def errorLines (command : Command) (e : ConfigError) : List String :=
  match e with
  | .unknownArgument _ _ => e.message :: command.helpLines
  | _ => command.helpLines

def firstError? (lines : List (Command × String)) : Option (Command × ConfigError) :=
  lines.findSome? fun (command, line) => (lineError? command line).map fun e => (command, e)

/-- Checks the configured lines; the first error is explained on the error output. -/
def check (a : Agent) : Option ConfigError × Agent :=
  match firstError? a.configured with
  | none => (none, a)
  | some (command, e) => (some e, a.writeAll .stderr (errorLines command e))

def summaries (a : Agent) : List (String × String) :=
  a.commands.map fun c => (c.name, c.description)

def commandListLines (a : Agent) : List String :=
  "The following commands are supported:" ::
    (a.summaries.map fun (name, description) => s!"{name}: {description}") ++
    ["Use <command>,help to get further help for a specific command."]

def printCommands (a : Agent) : Agent := a.writeAll .stdout a.commandListLines

end Agent

end ResourceTrace
