import ResourceTrace.Unicode.CharSet

set_option autoImplicit false

namespace ResourceTrace.Unicode

/-- The numbers from `low` to `high` as sequences of ranges of digits, a lead digit and `more`
digits behind it. -/
def spans : Nat → Nat → Nat → List (List (Nat × Nat))
  | 0, low, high => [[(low, high)]]
  | more + 1, low, high =>
    let unit := Nat.pow 64 (more + 1)
    let lead := low / unit
    let last := high / unit
    if lead = last then (spans more (low % unit) (high % unit)).map ((lead, lead) :: ·)
    else
      let front := if low % unit = 0 then [] else
        (spans more (low % unit) (unit - 1)).map ((lead, lead) :: ·)
      let back := if high % unit = unit - 1 then [] else
        (spans more 0 (high % unit)).map ((last, last) :: ·)
      let lead' := if front.isEmpty then lead else lead + 1
      let last' := if back.isEmpty then last + 1 else last
      let middle := if lead' < last' then
        [(lead', last' - 1) :: List.replicate (more + 1) (0, 63)] else []
      front ++ middle ++ back

/-- The code points whose encodings have one length, without the surrogates: the first one, the
last one, and the number of continuation bytes. -/
def encodingBlocks : List (Nat × Nat × Nat) :=
  [(0, 0x7f, 0), (0x80, 0x7ff, 1), (0x800, 0xd7ff, 2), (0xe000, 0xffff, 2),
   (0x10000, 0x10ffff, 3)]

namespace CharSet

def encodings (s : CharSet) : List (List (Nat × Nat)) :=
  encodingBlocks.flatMap fun (first, last, more) =>
    s.ranges.flatMap fun (low, high) =>
      if max low first ≤ min high last then spans more (max low first) (min high last) else []

def common (a b : List (Nat × Nat)) : Nat :=
  if a.length = b.length then ((a.zip b).takeWhile fun p => p.1 == p.2).length else 0

/-- The nodes of the tree of encodings, in which a common start stands once. `before` is the
sequence in front of the given ones. -/
def treeSize (before : List (Nat × Nat)) : List (List (Nat × Nat)) → Nat
  | [] => 0
  | next :: rest => next.length - common before next + treeSize next rest

end CharSet

end ResourceTrace.Unicode
