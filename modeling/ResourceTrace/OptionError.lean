set_option autoImplicit false

namespace ResourceTrace

inductive OptionError where
  | invalidInteger (value : String)
  | invalidNumber (value : String)
  | unknownUnit (unit : Char)
  | outOfRange (value : String)
  | invalidPattern (pattern reason : String)
  | missingValue
  deriving DecidableEq, Repr

def OptionError.message : OptionError → String
  | invalidInteger value => s!"Could not parse integer value '{value}'"
  | invalidNumber value => s!"Could not parse number '{value}'"
  | unknownUnit unit => s!"Unknown unit '{unit}'."
  | outOfRange value => s!"Value out of range '{value}'"
  | invalidPattern pattern reason => s!"Invalid regular expression '{pattern}': {reason}"
  | missingValue => "Option requires a value"

end ResourceTrace
