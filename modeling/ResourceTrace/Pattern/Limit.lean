import ResourceTrace.Pattern.Node
import ResourceTrace.Unicode.Encoding

/-!
How large a pattern may be. Groups, repetitions and classes may be nested to a limited depth, and the
program that a pattern stands for, in which counted repetitions are written out, may take a
limited number of bytes.
-/

set_option autoImplicit false

namespace ResourceTrace.Pattern

open Unicode

def maxDepth : Nat := 250

def maxProgramSize : Nat := 10485760

def instructionSize : Nat := 32

/-- The bytes of a jump to one of several targets, beside those of an instruction. -/
def targetSize : Nat := 4

/-- The bytes of a test for one of several ranges of bytes, beside those of an instruction. -/
def rangeSize : Nat := 8

/-- The bytes of the program for one character of a set: byte for byte for a single character,
one test for ASCII characters, and otherwise the tree of the encodings. -/
def setProgramSize (s : CharSet) : Nat :=
  if s.isSingle then instructionSize * s.encodings.flatten.length
  else if s.ranges.all fun r => decide (r.2 ≤ 0x7f) then
    2 * instructionSize + rangeSize * s.ranges.length
  else
    2 * instructionSize + targetSize * s.encodings.length +
      instructionSize * CharSet.treeSize [] s.encodings

namespace Node

def takesNothing : Node → Bool
  | .empty | .look _ => true
  | .one _ => false
  | .group body _ => body.takesNothing
  | .seq first second | .alt first second => first.takesNothing && second.takesNothing
  | .rep body _ most => body.takesNothing || most == some 0

/-- The depth of nesting; a whole sequence and a whole choice are one level each. -/
def depth : Node → Nat
  | .empty | .one _ | .look _ => 0
  | .group body _ => body.depth + 1
  | .rep body _ _ => body.depth + 1
  | .seq first second => max (first.depth + 1) (match second with
    | .seq _ _ => second.depth
    | _ => second.depth + 1)
  | .alt first second => max (first.depth + 1) (match second with
    | .alt _ _ => second.depth
    | _ => second.depth + 1)

/-- A body written out `least` times and then up to `most` times, or in a loop. Repeating what
takes no character is worth one turn. -/
def repProgramSize (body : Nat) (once : Bool) (least : Nat) (most : Option Nat) : Nat :=
  let branch := instructionSize + 2 * targetSize
  let least := if once then min least 1 else least
  match if once then some ((most.getD 1).min 1) else most with
  | none => max least 1 * body + branch
  | some most =>
    if most = least then max (least * body) instructionSize
    else least * body + instructionSize + (most - least) * (body + branch)

def programSize : Node → Nat
  | .empty | .look _ => instructionSize
  | .one set => setProgramSize set
  | .group body captures =>
    body.programSize + if captures then 2 * instructionSize else 0
  | .seq first second => first.programSize + second.programSize
  | .alt first second =>
    first.programSize + second.programSize + 2 * (instructionSize + targetSize)
  | .rep body least most => repProgramSize body.programSize body.takesNothing least most

def isWithinLimits (node : Node) : Bool :=
  decide (node.depth ≤ maxDepth) && decide (node.programSize ≤ maxProgramSize)

end Node

end ResourceTrace.Pattern
