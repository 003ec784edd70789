import ResourceTrace.Pattern.Escape
import ResourceTrace.Pattern.Limit

set_option autoImplicit false

namespace ResourceTrace.Pattern

open Unicode

inductive SetOp where
  | inter
  | diff
  | symmDiff
  deriving DecidableEq, Repr

def SetOp.apply (op : SetOp) (f : Flags) (left right : CharSet) : CharSet :=
  let left := f.closeCase left
  let right := f.closeCase right
  match op with
  | .inter => left.inter right
  | .diff => left.diff right
  | .symmDiff => left.symmDiff right

/-- An open class: what was collected around it, and the operation that waits for its right
side. -/
structure ClassLevel where
  negated : Bool
  around : List CharSet
  waiting : Option (SetOp × CharSet)
  deriving Repr

def ClassLevel.value (f : Flags) (level : ClassLevel) (items : List CharSet) : CharSet :=
  match level.waiting with
  | none => CharSet.unions items
  | some (op, left) => op.apply f left (CharSet.unions items)

def asciiClass? (name : String) : Option CharSet :=
  match name with
  | "alnum" => some (CharSet.ofHex ["30-39 41-5a 61-7a"])
  | "alpha" => some (CharSet.ofHex ["41-5a 61-7a"])
  | "ascii" => some (CharSet.ofHex ["0-7f"])
  | "blank" => some (CharSet.ofHex ["9 20"])
  | "cntrl" => some (CharSet.ofHex ["0-1f 7f"])
  | "digit" => some (CharSet.ofHex ["30-39"])
  | "graph" => some (CharSet.ofHex ["21-7e"])
  | "lower" => some (CharSet.ofHex ["61-7a"])
  | "print" => some (CharSet.ofHex ["20-7e"])
  | "punct" => some (CharSet.ofHex ["21-2f 3a-40 5b-60 7b-7e"])
  | "space" => some (CharSet.ofHex ["9-d 20"])
  | "upper" => some (CharSet.ofHex ["41-5a"])
  | "word" => some (CharSet.ofHex ["30-39 41-5a 5f 61-7a"])
  | "xdigit" => some (CharSet.ofHex ["30-39 41-46 61-66"])
  | _ => none

/-- A class such as `[:alpha:]`, behind its opening bracket. -/
def readNamedClass? (cs : List Char) : Option (Bool × CharSet × List Char) := do
  let rest ← Text.dropFront? [':'] cs
  let (negated, rest) := match rest with
    | '^' :: r => (true, r)
    | r => (false, r)
  let (name, rest) ← Text.splitAtFirst ':' rest
  let rest ← Text.dropFront? [']'] rest
  let set ← asciiClass? (String.ofList name)
  some (negated, set, rest)

/-- The first character of a class decides alone whether it stands for itself. -/
def readLeading? (f : Flags) : Nat → List CharSet → List Char → Option (List CharSet × List Char)
  | 0, _, _ => none
  | _ + 1, _, [] => none
  | fuel + 1, items, c :: cs =>
    if c = '-' then readLeading? f fuel (CharSet.single '-' :: items) (f.next cs)
    else if c = ']' ∧ items.isEmpty then
      match f.next cs with
      | [] => none
      | rest => some ([CharSet.single ']'], rest)
    else some (items, c :: cs)

def openClass? (f : Flags) (around : List CharSet) (cs : List Char) :
    Option (ClassLevel × List CharSet × List Char) := do
  let (negated, rest) := match f.next cs with
    | '^' :: r => (true, f.next r)
    | r => (false, r)
  let (items, rest) ← readLeading? f (rest.length + 1) [] rest
  some (⟨negated, around, none⟩, items, rest)

def readClassAtom? (f : Flags) : List Char → Option (Atom × List Char)
  | [] => none
  | '\\' :: cs => readEscape? f cs
  | c :: cs => some (.char c false, cs)

/-- Without Unicode a class may name ASCII characters alone. -/
def classChar? (f : Flags) : Atom → Option Char
  | .char c _ => if f.unicode || decide (c.toNat ≤ 0x7f) then some c else none
  | _ => none

def afterHyphen? (f : Flags) (cs : List Char) : Option Char :=
  if f.verbose then
    match cs.dropWhile Text.isBlank with
    | '#' :: rest => (rest.dropWhile Text.isBlank).head?
    | rest => rest.head?
  else cs.head?

def readClassItem? (f : Flags) (cs : List Char) : Option (CharSet × List Char) := do
  let (first, rest) ← readClassAtom? f cs
  let single := match first with
    | .set s => some s
    | .look _ => none
    | atom => (classChar? f atom).map CharSet.single
  match f.next rest with
  | [] => none
  | '-' :: more =>
    if afterHyphen? f more = some ']' ∨ afterHyphen? f more = some '-' then
      single.map fun s => (s, '-' :: more)
    else do
      let (last, rest) ← readClassAtom? f (f.next more)
      let low ← classChar? f first
      let high ← classChar? f last
      if low ≤ high then some (⟨[(low.toNat, high.toNat)]⟩, rest) else none
  | rest => single.map fun s => (s, rest)

/-- Reads on inside the open classes, of which `level` is the innermost one. -/
def readClassFrom? (f : Flags) :
    Nat → ClassLevel → List ClassLevel → List CharSet → List Char → Option (CharSet × List Char)
  | 0, _, _, _, _ => none
  | fuel + 1, level, outer, items, cs =>
    let operate (op : SetOp) (rest : List Char) :=
      let level' := { level with waiting := some (op, level.value f items) }
      readClassFrom? f fuel level' outer [] rest
    match f.next cs with
    | [] => none
    | '[' :: rest =>
      match readNamedClass? rest with
      | some (negated, set, rest) => do
        let set ← f.finish? negated set
        readClassFrom? f fuel level outer (set :: items) rest
      | none => do
        let (inner, innerItems, rest) ← openClass? f items rest
        if maxDepth ≤ outer.length + 1 then none
        else readClassFrom? f fuel inner (level :: outer) innerItems rest
    | ']' :: rest => do
      let set ← f.finish? level.negated (level.value f items)
      match outer with
      | [] => some (set, rest)
      | enclosing :: outer => readClassFrom? f fuel enclosing outer (set :: level.around) rest
    | '&' :: '&' :: rest => operate .inter rest
    | '-' :: '-' :: rest => operate .diff rest
    | '~' :: '~' :: rest => operate .symmDiff rest
    | rest => do
      let (set, rest) ← readClassItem? f rest
      readClassFrom? f fuel level outer (set :: items) rest

def readClass? (f : Flags) (cs : List Char) : Option (CharSet × List Char) := do
  let (level, items, rest) ← openClass? f [] cs
  readClassFrom? f (cs.length + 1) level [] items rest

end ResourceTrace.Pattern
