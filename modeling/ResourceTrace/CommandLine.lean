import ResourceTrace.Agent.Commands
import ResourceTrace.Text.Blank

/-!
Configuration texts on the command line: single lines that enable one command each, and agent
arguments that enable several commands in one text.
-/

set_option autoImplicit false

namespace ResourceTrace.CommandLine

/-- The command of a line and its options, which stand behind the first comma. -/
def splitLine (line : String) : String × String :=
  let cs := Text.trim line.toList
  match Text.splitAtFirst ',' cs with
  | some (command, options) => (String.ofList command, String.ofList options)
  | none => (String.ofList cs, "")

structure Group where
  command : List Char
  options : List (List Char) := []
  deriving DecidableEq, Repr

def group (isCommand : String → Bool) :
    List (List Char) → List (List Char) × List Group
  | [] => ([], [])
  | piece :: rest =>
    let (options, groups) := group isCommand rest
    if isCommand (String.ofList piece) then ([], ⟨piece, options⟩ :: groups)
    else (piece :: options, groups)

def Group.texts (g : Group) : String × String :=
  (String.ofList g.command, String.ofList (Text.join [','] g.options))

/-- Commands with their option lines. The pieces are those of an option line; one that names a
command starts a group, any other is an option of its group and keeps its backslashes. -/
def splitAgentArgs (isCommand : String → Bool) (args : String) :
    Except ConfigError (List (String × String)) :=
  let pieces := (Text.pieces ',' none args.toList).filter fun piece => !piece.isEmpty
  match group isCommand pieces with
  | ([], groups) => .ok (groups.map Group.texts)
  | (stray :: _, _) => .error (.unknownCommand (String.ofList stray))

end ResourceTrace.CommandLine
