set_option autoImplicit false

namespace ResourceTrace.Unicode

structure CharSet where
  ranges : List (Nat × Nat)
  deriving DecidableEq, Repr

namespace CharSet

def lastCodePoint : Nat := 0x10ffff

def containsCode (s : CharSet) (n : Nat) : Bool :=
  s.ranges.any fun (low, high) => decide (low ≤ n ∧ n ≤ high)

def contains (s : CharSet) (c : Char) : Bool := s.containsCode c.toNat

/-- Joins a range with the following ones that overlap or touch it; the following ranges
ascend by their lower ends. -/
def absorb (low high : Nat) : List (Nat × Nat) → List (Nat × Nat)
  | [] => [(low, high)]
  | (low', high') :: rest =>
    if low' ≤ high + 1 then absorb low (max high high') rest
    else (low, high) :: absorb low' high' rest

def ofRanges (ranges : List (Nat × Nat)) : CharSet :=
  ⟨match ranges.mergeSort fun a b => decide (a.1 ≤ b.1) with
    | [] => []
    | (low, high) :: rest => absorb low high rest⟩

def empty : CharSet := ⟨[]⟩

def single (c : Char) : CharSet := ⟨[(c.toNat, c.toNat)]⟩

def isSingle (s : CharSet) : Bool :=
  match s.ranges with
  | [(low, high)] => low == high
  | _ => false

def unions (sets : List CharSet) : CharSet := ofRanges (sets.flatMap ranges)

def union (s t : CharSet) : CharSet := ofRanges (s.ranges ++ t.ranges)

/-- What lies between the ranges, from `start` on. -/
def gaps (start : Nat) : List (Nat × Nat) → List (Nat × Nat)
  | [] => if start ≤ lastCodePoint then [(start, lastCodePoint)] else []
  | (low, high) :: rest =>
    if start < low then (start, low - 1) :: gaps (high + 1) rest else gaps (high + 1) rest

def complement (s : CharSet) : CharSet := ⟨gaps 0 s.ranges⟩

def all : CharSet := empty.complement

def inter (s t : CharSet) : CharSet := (s.complement.union t.complement).complement

def diff (s t : CharSet) : CharSet := s.inter t.complement

def symmDiff (s t : CharSet) : CharSet := (s.diff t).union (t.diff s)

structure HexScan where
  done : List (Nat × Nat) := []
  low : Option Nat := none
  number : Nat := 0

def HexScan.close (h : HexScan) : List (Nat × Nat) := (h.low.getD h.number, h.number) :: h.done

def HexScan.step (h : HexScan) (c : Char) : HexScan :=
  if c = ' ' then { done := h.close }
  else if c = '-' then { h with low := some h.number, number := 0 }
  else
    { h with number :=
        16 * h.number + (if c.isDigit then c.toNat - '0'.toNat else c.toNat - 'a'.toNat + 10) }

/-- Ranges such as `30-39 5f`, with a blank between two of them. -/
def hexRanges (text : String) : List (Nat × Nat) :=
  (text.toList.foldl HexScan.step {}).close.reverse

def ofHex (lines : List String) : CharSet := ⟨lines.flatMap hexRanges⟩

end CharSet

end ResourceTrace.Unicode
