import ResourceTrace.Text.Cut

set_option autoImplicit false

namespace ResourceTrace

inductive Destination where
  | stdout
  | stderr
  | nowhere
  | file (path : String) (append : Bool)
  deriving DecidableEq, Repr

def Destination.ofText (text : String) : Destination :=
  if text = "stdout" then .stdout
  else if text = "stderr" then .stderr
  else if text = "none" then .nowhere
  else match text.toList with
    | '+' :: path => .file (String.ofList path) true
    | _ => .file text false

end ResourceTrace
