set_option autoImplicit false

namespace ResourceTrace.Numeral

def digit (c : Char) : Nat := c.toNat - '0'.toNat

def value (cs : List Char) : Nat := cs.foldl (fun n c => 10 * n + digit c) 0

def readNat? (cs : List Char) : Option Nat :=
  if cs.isEmpty || !cs.all Char.isDigit then none else some (value cs)

def readUnsigned? (limit : Nat) (cs : List Char) : Option Nat :=
  (readNat? cs).filter (· ≤ limit)

def readInt? (low high : Int) (cs : List Char) : Option Int :=
  let signed := match cs with
    | '-' :: ds => (readNat? ds).map fun n => -(n : Int)
    | '+' :: ds => (readNat? ds).map Int.ofNat
    | ds => (readNat? ds).map Int.ofNat
  signed.filter fun i => decide (low ≤ i ∧ i ≤ high)

def maxInt32 : Int := 2147483647
def minInt32 : Int := -2147483648
def maxInt64 : Int := 9223372036854775807
def minInt64 : Int := -9223372036854775808
def maxUnsigned64 : Nat := 18446744073709551615

def readInt32? : List Char → Option Int := readInt? minInt32 maxInt32

def readInt64? : List Char → Option Int := readInt? minInt64 maxInt64

def hex (n : Nat) : String := "0x" ++ String.ofList (Nat.toDigits 16 n)

def padded (width n : Nat) : String :=
  let digits := Nat.toDigits 10 n
  String.ofList (List.replicate (width - digits.length) '0' ++ digits)

end ResourceTrace.Numeral
