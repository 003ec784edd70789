import ResourceTrace.Decimal.Shortest
import ResourceTrace.Text.Numeral

set_option autoImplicit false

namespace ResourceTrace

inductive Value where
  | null
  | bool (b : Bool)
  | int (i : Int)
  | float (x : Float)
  | str (s : String)
  | ref (n : Nat)
  deriving DecidableEq, Repr

namespace Value

def isNull : Value → Bool
  | null => true
  | _ => false

def natural? : Value → Option Nat
  | int (.ofNat n) => some n
  | ref n => some n
  | _ => none

def number? : Value → Option Float
  | int i => some (Float.ofInt i)
  | float x => some x
  | _ => none

def str? : Value → Option String
  | str s => some s
  | _ => none

def text : Value → String
  | null => "null"
  | bool b => if b then "true" else "false"
  | int i => toString i
  | float x => Decimal.text x
  | str s => s
  | ref n => Numeral.hex n

def text? (v : Value) : Option String := if v.isNull then none else some v.text

end Value

end ResourceTrace
