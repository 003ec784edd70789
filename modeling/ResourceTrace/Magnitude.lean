import ResourceTrace.OptionError
import ResourceTrace.Text.Numeral

/-!
Magnitudes such as `1M2k` and `1h30m`. The text is cut from the left into segments, each an
optional minus sign, a run of digits and one character as its unit; the end of the text stands
for the unit one. Segments are scaled and summed, and nothing may leave the range of signed
64-bit numbers on the way.
-/

set_option autoImplicit false

namespace ResourceTrace.Magnitude

abbrev Units := List (Char × Nat)

def sizeUnits : Units := [('k', 1024), ('M', 1048576), ('G', 1073741824)]

def durationUnits : Units := [('s', 1), ('m', 60), ('h', 3600), ('d', 86400)]

structure Segment where
  negative : Bool
  digits : List Char
  unit : Option Char
  deriving DecidableEq, Repr

def dropSign : List Char → Bool × List Char
  | '-' :: cs => (true, cs)
  | cs => (false, cs)

namespace Segment

def read (cs : List Char) : Segment :=
  let rest := (dropSign cs).2
  ⟨(dropSign cs).1, rest.takeWhile Char.isDigit, (rest.dropWhile Char.isDigit).head?⟩

def rest (cs : List Char) : List Char := ((dropSign cs).2.dropWhile Char.isDigit).tail

end Segment

theorem length_dropSign_le (cs : List Char) : (dropSign cs).2.length ≤ cs.length := by
  unfold dropSign; split <;> simp

theorem length_rest_lt (c : Char) (cs : List Char) :
    (Segment.rest (c :: cs)).length < (c :: cs).length := by
  have h : ((dropSign (c :: cs)).2.dropWhile Char.isDigit).length ≤ (dropSign (c :: cs)).2.length :=
    (List.dropWhile_sublist _).length_le
  have := length_dropSign_le (c :: cs)
  simp only [Segment.rest, List.length_tail, List.length_cons] at *
  omega

def segments : List Char → List Segment
  | [] => []
  | c :: cs => Segment.read (c :: cs) :: segments (Segment.rest (c :: cs))
termination_by cs => cs.length
decreasing_by exact length_rest_lt c cs

def scale (units : Units) : Option Char → Except OptionError Nat
  | none => .ok 1
  | some unit =>
    match units.find? fun entry => entry.1 == unit with
    | some entry => .ok entry.2
    | none => .error (.unknownUnit unit)

def within (text : String) (i : Int) : Except OptionError Int :=
  if Numeral.minInt64 ≤ i ∧ i ≤ Numeral.maxInt64 then .ok i else .error (.outOfRange text)

/-- The signed amount of a segment. The digits are checked first, then the unit, then their
product. -/
def Segment.amount (units : Units) (text : String) (s : Segment) : Except OptionError Int := do
  let count ← within text (Numeral.value s.digits : Nat)
  let factor ← scale units s.unit
  let amount ← within text (count * factor)
  return if s.negative then -amount else amount

def add (units : Units) (text : String) (total : Int) (s : Segment) : Except OptionError Int := do
  let amount ← s.amount units text
  within text (total + amount)

def parse (units : Units) (text : String) : Except OptionError Int :=
  (segments text.toList).foldlM (add units text) 0

end ResourceTrace.Magnitude
