import ResourceTrace.Pattern.Node
import ResourceTrace.Unicode.LetterCase
import ResourceTrace.Text.Blank
import ResourceTrace.Text.Numeral

set_option autoImplicit false

namespace ResourceTrace.Pattern

open Unicode

/-- Settings that a pattern may switch on and off for a part of itself. -/
structure Flags where
  caseless : Bool := false
  multiLine : Bool := false
  dotAll : Bool := false
  unicode : Bool := true
  returns : Bool := false
  verbose : Bool := false
  deriving DecidableEq, Repr

/-- Drops blanks and comments; `inComment` tells whether the text starts inside a comment. -/
def dropBlank (inComment : Bool) : List Char → List Char
  | [] => []
  | c :: cs =>
    if inComment then dropBlank (c != '\n') cs
    else if Text.isBlank c then dropBlank false cs
    else if c = '#' then dropBlank true cs
    else c :: cs

namespace Flags

def next (f : Flags) (cs : List Char) : List Char :=
  if f.verbose then dropBlank false cs else cs

def words (f : Flags) : CharSet :=
  if f.unicode then Property.word else CharSet.ofHex ["30-39 41-5a 5f 61-7a"]

def allows (f : Flags) (s : CharSet) : Bool :=
  f.unicode || s.ranges.all fun r => decide (r.2 ≤ 0x7f)

def asciiPairs : List (Nat × Nat) := (List.range 26).map fun i => (0x41 + i, 0x61 + i)

/-- The set with all characters that differ from one of its own in case alone. -/
def closeCase (f : Flags) (s : CharSet) : CharSet :=
  if f.caseless then
    let pairs := if f.unicode then foldPairs else asciiPairs
    let folded := (pairs.filter fun p => s.containsCode p.1).map fun p => (p.2, p.2)
    let s' := s.union (CharSet.ofRanges folded)
    let unfolded := (pairs.filter fun p => s'.containsCode p.2).map fun p => (p.1, p.1)
    s'.union (CharSet.ofRanges unfolded)
  else s

def finish? (f : Flags) (negated : Bool) (s : CharSet) : Option CharSet :=
  let joined := f.closeCase s
  let set := if negated then joined.complement else joined
  if f.allows set then some set else none

end Flags

inductive Atom where
  | char (c : Char) (byte : Bool)
  | set (s : CharSet)
  | look (condition : Look)
  deriving DecidableEq, Repr

def hexDigit? (c : Char) : Option Nat :=
  if c.isDigit then some (c.toNat - '0'.toNat)
  else if 'a' ≤ c ∧ c ≤ 'f' then some (c.toNat - 'a'.toNat + 10)
  else if 'A' ≤ c ∧ c ≤ 'F' then some (c.toNat - 'A'.toNat + 10)
  else none

def charOfCode? (n : Nat) : Option Char :=
  if h : n.isValidChar then some (Char.ofNatAux n h) else none

def readHexDigits? (f : Flags) : Nat → Nat → List Char → Option (Nat × List Char)
  | 0, n, cs => some (n, cs)
  | _ + 1, _, [] => none
  | count + 1, n, c :: cs => do
    let d ← hexDigit? c
    readHexDigits? f count (16 * n + d) (f.next cs)

def readHexBraced? (f : Flags) : Nat → List (Nat) → List Char → Option (List Nat × List Char)
  | 0, _, _ => none
  | fuel + 1, digits, cs =>
    match f.next cs with
    | [] => none
    | c :: rest =>
      if c = '\x7d' then some (digits.reverse, f.next rest)
      else do
        let d ← hexDigit? c
        readHexBraced? f fuel (d :: digits) rest

def readHex? (f : Flags) (kind : Char) (cs : List Char) : Option (Atom × List Char) :=
  match f.next cs with
  | [] => none
  | c :: rest =>
    if c = '\x7b' then do
      let (digits, rest) ← readHexBraced? f (rest.length + 1) [] rest
      if digits.isEmpty ∨ 8 < (digits.dropWhile (· == 0)).length then none
      else
        let c ← charOfCode? (digits.foldl (fun n d => 16 * n + d) 0)
        some (.char c false, rest)
    else do
      let count := if kind = 'x' then 2 else if kind = 'u' then 4 else 8
      let (n, rest) ← readHexDigits? f count 0 (c :: rest)
      let c ← charOfCode? n
      some (.char c (kind = 'x'), rest)

def readBraced? (f : Flags) : Nat → List Char → List Char → Option (List Char × List Char)
  | 0, _, _ => none
  | fuel + 1, name, cs =>
    match f.next cs with
    | [] => none
    | c :: rest =>
      if c = '\x7d' then some (name.reverse, rest) else readBraced? f fuel (c :: name) rest

/-- A property written as a name, or as a kind and a value that it has or, behind `!=`, has
not. -/
def property? (text : List Char) : Option (Bool × CharSet) :=
  match Text.splitAtWord ['!', '='] text with
  | some (kind, value) => (Property.valued? kind value).map fun s => (true, s)
  | none =>
    match (Text.splitAtFirst ':' text).or (Text.splitAtFirst '=' text) with
    | some (kind, value) => (Property.valued? kind value).map fun s => (false, s)
    | none => (Property.named? text).map fun s => (false, s)

def readProperty? (f : Flags) (negated : Bool) (cs : List Char) :
    Option (CharSet × List Char) := do
  let (name, rest) ← match f.next cs with
    | [] => none
    | c :: rest =>
      if c = '\x7b' then readBraced? f (rest.length + 1) [] rest
      else if c = '\\' then none
      else some ([c], f.next rest)
  if f.unicode then
    let (unequal, set) ← property? name
    let set ← f.finish? (negated != unequal) set
    some (set, rest)
  else none

def shorthand (f : Flags) (kind : Char) : CharSet :=
  match kind.toLower with
  | 'd' => if f.unicode then Category.decimalNumber else CharSet.ofHex ["30-39"]
  | 's' => if f.unicode then Property.whiteSpace else CharSet.ofHex ["9-d 20"]
  | _ => f.words

def shorthand? (f : Flags) (kind : Char) : Option CharSet :=
  let set := if kind.isUpper then (shorthand f kind).complement else shorthand f kind
  if f.allows set then some set else none

def isMeta (c : Char) : Bool :=
  ['\\', '.', '+', '*', '?', '(', ')', '|', '[', ']', '\x7b', '\x7d', '^', '$', '#', '&', '-',
   '~'].contains c

def isEscapable (c : Char) : Bool :=
  isMeta c || (decide (c.toNat < 0x80) && !c.isAlphanum && c != '<' && c != '>')

/-- A word boundary of a special kind, in braces behind `b`. What does not start like one is
left to be read as a repetition. -/
def readBoundary? (f : Flags) (cs : List Char) : Option (Look × List Char) :=
  let plain := some (Look.wordBoundary f.words, cs)
  let isNameChar := fun c : Char => c.isAlpha || c = '-'
  match cs with
  | [] => plain
  | brace :: rest =>
    if brace = '\x7b' then
      match f.next rest with
      | [] => none
      | c :: _ =>
        if isNameChar c then do
          let (name, after) ← readBraced? f (rest.length + 1) [] rest
          match String.ofList name with
          | "start" => some (.wordStart f.words, after)
          | "end" => some (.wordEnd f.words, after)
          | "start-half" => some (.wordStartHalf f.words, after)
          | "end-half" => some (.wordEndHalf f.words, after)
          | _ => none
        else plain
    else plain

def readEscape? (f : Flags) : List Char → Option (Atom × List Char)
  | [] => none
  | c :: cs =>
    if c.isDigit then none
    else if c = 'x' ∨ c = 'u' ∨ c = 'U' then readHex? f c cs
    else if c = 'p' ∨ c = 'P' then
      (readProperty? f (c = 'P') cs).map fun (s, rest) => (.set s, rest)
    else if ['d', 's', 'w', 'D', 'S', 'W'].contains c then
      (shorthand? f c).map fun s => (.set s, cs)
    else if isEscapable c then some (.char c false, cs)
    else match c with
      | 'a' => some (.char '\x07' false, cs)
      | 'f' => some (.char '\x0c' false, cs)
      | 't' => some (.char '\t' false, cs)
      | 'n' => some (.char '\n' false, cs)
      | 'r' => some (.char '\r' false, cs)
      | 'v' => some (.char '\x0b' false, cs)
      | 'A' => some (.look .textStart, cs)
      | 'z' => some (.look .textEnd, cs)
      | 'b' => (readBoundary? f cs).map fun (l, rest) => (.look l, rest)
      | 'B' => some (.look (.noWordBoundary f.words), cs)
      | '<' => some (.look (.wordStart f.words), cs)
      | '>' => some (.look (.wordEnd f.words), cs)
      | _ => none

end ResourceTrace.Pattern
