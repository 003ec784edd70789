import ResourceTrace.Text.Numeral

/-!
Doubles read from decimal text: an optional sign, then digits with at most one point and at
least one digit, then an optional exponent; or `inf`, `infinity` or `nan` in any case. The
result is the double nearest to the number written.
-/

set_option autoImplicit false

namespace ResourceTrace.Decimal

/-- A number as written: its digits, how many of them stand behind the point, its exponent. -/
structure Written where
  digits : List Char
  places : Nat
  exponent : Int
  deriving DecidableEq, Repr

def readExponent? : List Char → Option Int
  | [] => some 0
  | c :: cs =>
    if c = 'e' ∨ c = 'E' then
      match cs with
      | '-' :: ds => (Numeral.readNat? ds).map fun n => -(n : Int)
      | '+' :: ds => (Numeral.readNat? ds).map Int.ofNat
      | ds => (Numeral.readNat? ds).map Int.ofNat
    else none

def readWritten? (cs : List Char) : Option Written :=
  let whole := cs.takeWhile Char.isDigit
  let (fraction, rest) := match cs.dropWhile Char.isDigit with
    | '.' :: r => (r.takeWhile Char.isDigit, r.dropWhile Char.isDigit)
    | r => ([], r)
  if whole.isEmpty && fraction.isEmpty then none
  else (readExponent? rest).map fun e => ⟨whole ++ fraction, fraction.length, e⟩

/-- The nearest double. Numbers far outside the range of doubles are settled by their size
alone, so that no large power is computed for them. -/
def Written.toFloat (w : Written) : Float :=
  let significand := Numeral.value w.digits
  let exponent := w.exponent - w.places
  let size := (Nat.toDigits 10 significand).length + exponent
  if significand = 0 ∨ size < -400 then 0.0
  else if 400 < size then Float.ofBits 0x7ff0000000000000
  else if exponent < 0 then Float.ofScientific significand true (-exponent).toNat
  else Float.ofScientific significand false exponent.toNat

def named? (cs : List Char) : Option Float :=
  let word := String.ofList (cs.map Char.toLower)
  if word = "inf" ∨ word = "infinity" then some (Float.ofBits 0x7ff0000000000000)
  else if word = "nan" then some (Float.ofBits 0x7ff8000000000000)
  else none

def readUnsigned? (cs : List Char) : Option Float :=
  match named? cs with
  | some x => some x
  | none => (readWritten? cs).map Written.toFloat

def read? : List Char → Option Float
  | '-' :: cs => (readUnsigned? cs).map Float.neg
  | '+' :: cs => readUnsigned? cs
  | cs => readUnsigned? cs

end ResourceTrace.Decimal
