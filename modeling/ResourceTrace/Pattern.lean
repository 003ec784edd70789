/-!
Patterns: regular expressions, searched for anywhere in a text. What a text means as a pattern is up
to the engine of the host; the library only asks it.
-/

set_option autoImplicit false

namespace ResourceTrace

class PatternEngine where
  fault? (source : String) : Option String
  finds (source text : String) : Bool

/-- A pattern is told by its text, which an engine always reads in the same way. -/
structure Pattern where
  source : String
  deriving DecidableEq, Repr

namespace Pattern

variable [PatternEngine]

def compile (source : String) : Except String Pattern :=
  match PatternEngine.fault? source with
  | none => .ok ⟨source⟩
  | some reason => .error reason

def ofText? (source : String) : Option Pattern := (compile source).toOption

def isFoundIn (p : Pattern) (text : String) : Bool := PatternEngine.finds p.source text

end Pattern

end ResourceTrace
