set_option autoImplicit false

namespace ResourceTrace

structure Frame where
  function : String
  file : Option String
  line : Option Nat
  deriving DecidableEq, Repr

/-- A line number counts only together with its file. -/
def Frame.text (f : Frame) : String :=
  match f.file, f.line with
  | some file, some line => s!"{f.function} ({file}:{line})"
  | some file, none => s!"{f.function} ({file})"
  | none, _ => f.function

abbrev Stack := List Frame

def Stack.lines (s : Stack) : List String := s.map fun f => "\t" ++ f.text

end ResourceTrace
