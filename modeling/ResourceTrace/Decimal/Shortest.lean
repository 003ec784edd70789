/-!
The fewest decimal digits that read back as a given double, and its text without exponent.

A positive double is `m * 2 ^ q`. The decimals that round to it fill an interval around it,
whose ends belong to it when `m` is even. For one digit, two digits and so on the two
neighbours of the value on that decimal grid are tried; the first grid with a neighbour in the
interval gives the digits, the nearer neighbour wins, and of two equally near ones the larger.
-/

set_option autoImplicit false

namespace ResourceTrace.Decimal

structure Scaled where
  significand : Nat
  exponent : Int
  deriving DecidableEq, Repr

structure Binary where
  m : Nat
  q : Int
  deriving DecidableEq, Repr

/-- A value and the ends of its rounding interval over one denominator. -/
structure Interval where
  low : Nat
  mid : Nat
  high : Nat
  denominator : Nat
  closed : Bool
  deriving DecidableEq, Repr

namespace Binary

def ofBits (bits : UInt64) : Binary :=
  let fraction : Nat := bits.toNat % Nat.pow 2 52
  let biased : Nat := bits.toNat / Nat.pow 2 52 % Nat.pow 2 11
  if biased = 0 then ⟨fraction, -1074⟩ else ⟨Nat.pow 2 52 + fraction, Int.subNatNat biased 1075⟩

/-- Half of the gap to each neighbour; below a power of two the gap is half as wide. -/
def interval (b : Binary) : Interval :=
  let unit := Nat.pow 2 b.q.toNat
  { low := (4 * b.m - (if b.m = Nat.pow 2 52 then 1 else 2)) * unit
    mid := 4 * b.m * unit
    high := (4 * b.m + 2) * unit
    denominator := 4 * Nat.pow 2 (-b.q).toNat
    closed := b.m % 2 == 0 }

end Binary

namespace Interval

def scale (i : Interval) (exponent : Int) : Interval :=
  let up := Nat.pow 10 (-exponent).toNat
  { i with
    low := i.low * up, mid := i.mid * up, high := i.high * up
    denominator := i.denominator * Nat.pow 10 exponent.toNat }

def contains (i : Interval) (n : Nat) : Bool :=
  let x := n * i.denominator
  if i.closed then decide (i.low ≤ x ∧ x ≤ i.high) else decide (i.low < x ∧ x < i.high)

/-- The whole number in the interval that is nearest to its value, if there is one among the
two neighbours of the value. -/
def nearest? (i : Interval) : Option Nat :=
  let below := i.mid / i.denominator
  let above := below + 1
  match i.contains below, i.contains above with
  | true, true =>
    if i.mid - below * i.denominator < above * i.denominator - i.mid then some below
    else some above
  | true, false => some below
  | false, true => some above
  | false, false => none

def leading (i : Interval) : Int :=
  let whole := i.mid / i.denominator
  if whole ≠ 0 then (Nat.toDigits 10 whole).length - 1
  else
    let places := (List.range 400).find? fun j => i.denominator ≤ i.mid * Nat.pow 10 j
    Int.negOfNat (places.getD 400)

end Interval

def search (i : Interval) : Nat → Int → Scaled
  | 0, exponent => ⟨(i.scale exponent).mid / (i.scale exponent).denominator, exponent⟩
  | grids + 1, exponent =>
    match (i.scale exponent).nearest? with
    | some n => ⟨n, exponent⟩
    | none => search i grids (exponent - 1)

/-- The shortest decimal that rounds to a positive double. The first grid lies above the leading
digit, as a value may round up to a power of ten; below it seventeen digits always suffice. -/
def Binary.shortest (b : Binary) : Scaled :=
  search b.interval 18 (b.interval.leading + 1)

def Scaled.text (s : Scaled) : List Char :=
  let digits := Nat.toDigits 10 s.significand
  match s.exponent with
  | .ofNat zeros => digits ++ List.replicate zeros '0'
  | .negSucc k =>
    let places := k + 1
    if places < digits.length then
      digits.take (digits.length - places) ++ '.' :: digits.drop (digits.length - places)
    else
      '0' :: '.' :: (List.replicate (places - digits.length) '0' ++ digits)

/-- The text of a double: never an exponent, a sign also on negative zero. -/
def text (x : Float) : String :=
  if x.isNaN then "NaN"
  else
    let bits := x.toBits
    let negative := Nat.pow 2 63 ≤ bits.toNat
    let magnitude := bits.toNat % Nat.pow 2 63
    let shown :=
      if x.isInf then "inf"
      else if magnitude = 0 then "0"
      else String.ofList (Binary.ofBits magnitude.toUInt64).shortest.text
    if negative then "-" ++ shown else shown

end ResourceTrace.Decimal
