import ResourceTrace.CommandLine.Arguments

set_option autoImplicit false

namespace ResourceTrace

namespace Arguments

def usage : List String :=
  ["Traces the live resources of a running workload and dumps them on demand.", "",
   "  -t, --trace <LINE>       Enable a command, e.g. traceOpenFiles,logDest=stdout",
   "      --agent-args <ARGS>  Enable several commands in one text",
   "      --list               List the commands",
   "      --export <FILE>      Write a snapshot of the live allocations at the end",
   "      --duration <SECS>    End after so many seconds, 0 for never",
   "      --step-ms <MILLIS>   Milliseconds between two iterations of the workload",
   "  -q, --quiet              Print dumps only",
   "  -h, --help               Print this text", "",
   "Each line of standard input is a dump request, such as help or openFiles,logDest=stdout."]

end Arguments

def ArgumentError.message : ArgumentError → String
  | displayHelp => "help requested"
  | unknownArgument => "unexpected argument"
  | invalidValue => "an option requires a value"
  | valueValidation => "the value of an option is not a number"
  | argumentConflict => "an option is given more than once"
  | tooManyValues => "an option takes no value"

end ResourceTrace
