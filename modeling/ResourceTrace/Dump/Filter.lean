import ResourceTrace.OptionLine.Reading
import ResourceTrace.Ledger

/-!
Which dumps are made and which records they print. A dump first passes three gates on the total
size, compared with the total of the last dump that was emitted; then each record is judged on
its own by its size, its age and the frames that would be printed.
-/

set_option autoImplicit false

namespace ResourceTrace

structure DumpFilter where
  maxFrames : Nat
  minSize : Int
  minStackSize : Int
  /-- No gate when negative. -/
  minIncrease : Int
  /-- The factor by which the last total must be reached; 300 percent are 3.0. -/
  minShare : Float
  minAge : Nat
  maxAge : Nat
  mustContain : Option Pattern
  mustNotContain : Option Pattern
  deriving DecidableEq, Repr

namespace DumpFilter

def defaultMaxFrames : Int := 16

def defaultMaxAge : Int := 31536000

def options : List (String × String) :=
  [("maxFrames", "The maximum number of frames printed per stack. Default 16."),
   ("minSize",
    "Only dump if the total size is at least this value. Supports k, M and G."),
   ("minStackSize", "Only print allocations of at least this size. Supports k, M and G."),
   ("minIncrease",
    "Only dump if the total size grew by at least this value since the last dump."),
   ("minPercentage",
    "Only dump if the total size is at least this percentage of the last dump."),
   ("minAge", "Only print allocations at least this old. Supports s, m, h and d."),
   ("maxAge", "Only print allocations at most this old. Supports s, m, h and d."),
   ("mustContain", "A regexp which must match a frame of the printed stacks."),
   ("mustNotContain", "A regexp which must not match any frame of the printed stacks.")]

def share (percentage : Int) : Float := 0.01 * Float.ofInt percentage

variable [PatternEngine]

def readBounds (o : OptionLine) (maxFrames : Int) : Noted DumpFilter := do
  let minSize ← o.size "minSize" 0
  let minStackSize ← o.size "minStackSize" 0
  let minIncrease ← o.size "minIncrease" (-1)
  let percentage ← o.long "minPercentage" 0
  let minAge ← o.duration "minAge" 0
  let maxAge ← o.duration "maxAge" defaultMaxAge
  let mustContain ← o.pattern "mustContain" none
  let mustNotContain ← o.pattern "mustNotContain" none
  return {
    maxFrames := maxFrames.toNat, minSize, minStackSize, minIncrease
    minShare := share percentage, minAge := minAge.toNat, maxAge := maxAge.toNat
    mustContain, mustNotContain }

/-- The filter of an option line, or the lines with which the process ends because the number
of frames is malformed. -/
def read (o : OptionLine) : Except (List String) (Noted DumpFilter) :=
  (o.int "maxFrames" defaultMaxFrames).map (readBounds o)

/-- The gates: an absolute floor, growth by a factor, growth by an amount. -/
def shouldDump (f : DumpFilter) (total lastTotal : Nat) : Bool :=
  if (total : Int) < f.minSize then false
  else if Float.ofNat total < Float.ofNat lastTotal * f.minShare then false
  else !(decide (0 ≤ f.minIncrease) && decide ((total : Int) < lastTotal + f.minIncrease))

def nanos (secs : Nat) : Nat := secs * 1000000000

def acceptsSizeAndAge {δ : Type} (f : DumpFilter) (r : Record δ) (now : Moment) : Bool :=
  decide (f.minStackSize ≤ (r.size : Int) ∧ r.age now ≤ nanos f.maxAge ∧
    nanos f.minAge ≤ r.age now)

/-- The innermost frames, which are the ones that are printed and searched. -/
def window (f : DumpFilter) (s : Stack) : Stack := s.take f.maxFrames

def acceptsLines (f : DumpFilter) (lines : List String) : Bool :=
  (match f.mustContain with
    | none => true
    | some p => lines.any p.isFoundIn) &&
  (match f.mustNotContain with
    | none => true
    | some p => !lines.any p.isFoundIn)

def accepts? {δ : Type} (f : DumpFilter) (r : Record δ) (now : Moment) : Option (List String) :=
  let lines := (f.window r.stack).map Frame.text
  if f.acceptsSizeAndAge r now && f.acceptsLines lines then some lines else none

end DumpFilter

end ResourceTrace
