import ResourceTrace.Unicode.Property

set_option autoImplicit false

namespace ResourceTrace.Pattern

open Unicode

inductive Look where
  | textStart
  | textEnd
  | lineStart
  | lineEnd
  | returnLineStart
  | returnLineEnd
  | wordBoundary (words : CharSet)
  | noWordBoundary (words : CharSet)
  | wordStart (words : CharSet)
  | wordEnd (words : CharSet)
  | wordStartHalf (words : CharSet)
  | wordEndHalf (words : CharSet)
  deriving DecidableEq, Repr

inductive Node where
  | empty
  | one (set : CharSet)
  | look (condition : Look)
  | group (body : Node) (captures : Bool)
  | seq (first second : Node)
  | alt (first second : Node)
  | rep (body : Node) (least : Nat) (most : Option Nat)
  deriving DecidableEq, Repr

def charBefore? (text : Array Char) (pos : Nat) : Option Char :=
  if pos = 0 then none else text[pos - 1]?

def isIn (set : CharSet) : Option Char → Bool
  | some c => set.contains c
  | none => false

def Look.holds (text : Array Char) (pos : Nat) : Look → Bool
  | .textStart => pos == 0
  | .textEnd => pos == text.size
  | .lineStart => pos == 0 || charBefore? text pos == some '\n'
  | .lineEnd => pos == text.size || text[pos]? == some '\n'
  | .returnLineStart =>
    pos == 0 || charBefore? text pos == some '\n' ||
      (charBefore? text pos == some '\r' && text[pos]? != some '\n')
  | .returnLineEnd =>
    pos == text.size || text[pos]? == some '\r' ||
      (text[pos]? == some '\n' && charBefore? text pos != some '\r')
  | .wordBoundary w => isIn w (charBefore? text pos) != isIn w text[pos]?
  | .noWordBoundary w => isIn w (charBefore? text pos) == isIn w text[pos]?
  | .wordStart w => !isIn w (charBefore? text pos) && isIn w text[pos]?
  | .wordEnd w => isIn w (charBefore? text pos) && !isIn w text[pos]?
  | .wordStartHalf w => !isIn w (charBefore? text pos)
  | .wordEndHalf w => !isIn w text[pos]?

def merge : List Nat → List Nat → List Nat
  | [], qs => qs
  | ps, [] => ps
  | p :: ps, q :: qs =>
    if p < q then p :: merge ps (q :: qs)
    else if q < p then q :: merge (p :: ps) qs
    else p :: merge ps qs

def steps (step : List Nat → List Nat) : Nat → List Nat → List Nat
  | 0, ps => ps
  | count + 1, ps => if step ps = ps then ps else steps step count (step ps)

/-- Where the pattern may end when it starts at one of the positions. No step leads backward,
so after as many repetitions as the text has positions a further one adds nothing. -/
def Node.ends (text : Array Char) : Node → List Nat → List Nat
  | .empty, ps => ps
  | .one set, ps => (ps.filter fun p => isIn set text[p]?).map (· + 1)
  | .look condition, ps => ps.filter fun p => condition.holds text p
  | .group body _, ps => body.ends text ps
  | .seq first second, ps => second.ends text (first.ends text ps)
  | .alt first second, ps => merge (first.ends text ps) (second.ends text ps)
  | .rep body least most, ps =>
    let positions := text.size + 1
    let start := steps (fun qs => body.ends text qs) (min least positions) ps
    let further := match most with
      | none => positions
      | some m => min (m - least) positions
    steps (fun qs => merge qs (body.ends text qs)) further start

def Node.foundIn (node : Node) (text : String) : Bool :=
  let cs := text.toList.toArray
  !(node.ends cs (List.range (cs.size + 1))).isEmpty

def Node.sequence : List Node → Node
  | [] => .empty
  | [node] => node
  | node :: rest => .seq node (sequence rest)

def Node.choice (first : Node) : List Node → Node
  | [] => first
  | next :: rest => .alt first (choice next rest)

end ResourceTrace.Pattern
