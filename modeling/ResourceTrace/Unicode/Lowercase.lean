import ResourceTrace.Unicode.LetterCase
import ResourceTrace.Unicode.Property

set_option autoImplicit false

namespace ResourceTrace.Unicode

/-- Whether a letter with a case comes next, characters without bearing on case left aside. -/
def casedNext (cs : List Char) : Bool :=
  match cs.dropWhile Property.caseIgnorable.contains with
  | [] => false
  | c :: _ => Property.cased.contains c

/-- Lowers the text after `before`, which holds the characters in front in reverse. -/
def lowerFrom : List Char → List Char → List Char
  | _, [] => []
  | before, c :: cs =>
    (if c = 'Σ' then [if casedNext before && !casedNext cs then 'ς' else 'σ']
     else lowerChar c) ++ lowerFrom (c :: before) cs

def lower (text : String) : String := String.ofList (lowerFrom [] text.toList)

end ResourceTrace.Unicode
