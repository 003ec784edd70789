import ResourceTrace.Pattern
import ResourceTrace.Pattern.Class

/-!
The engine that the program is run with. It reads regular expressions without look-around and back
references. Of the properties of characters it knows the common ones, and it gives no reasons. It
stands in for the engine of a host: what holds of the library holds with any engine.
-/

set_option autoImplicit false

namespace ResourceTrace

open Unicode

namespace Pattern

/-- An open group: whether it captures, the flags around it, the branches before it and the items
of its own branch so far, both in reverse. An item without a node is a change of flags. -/
structure Group where
  captures : Bool
  flags : Flags
  branches : List Node
  items : List (Option Node)
  deriving Repr

structure Reader where
  rest : List Char
  flags : Flags := {}
  names : List (List Char) := []
  branches : List Node := []
  items : List (Option Node) := []
  groups : List Group := []
  deriving Repr

namespace Reader

def branch (r : Reader) : Node := Node.sequence (r.items.reverse.map fun item => item.getD .empty)

def node (r : Reader) : Node :=
  match (r.branch :: r.branches).reverse with
  | [] => .empty
  | first :: more => Node.choice first more

def push (r : Reader) (node : Node) (rest : List Char) : Reader :=
  { r with items := some node :: r.items, rest := rest }

/-- A repetition of the item before, which must not be a change of flags. -/
def repeat? (r : Reader) (least : Nat) (most : Option Nat) (rest : List Char) : Option Reader :=
  match r.items with
  | some node :: items => some { r with items := some (.rep node least most) :: items, rest := rest }
  | _ => none

def openGroup (r : Reader) (captures : Bool) (flags : Flags) (rest : List Char) : Reader :=
  { r with
    groups := ⟨captures, r.flags, r.branches, r.items⟩ :: r.groups
    flags := flags, branches := [], items := [], rest := rest }

def closeGroup? (r : Reader) (rest : List Char) : Option Reader :=
  match r.groups with
  | [] => none
  | g :: groups =>
    some { r with
      groups := groups, flags := g.flags, branches := g.branches
      items := some (.group r.node g.captures) :: g.items, rest := rest }

end Reader

/-- Reads flags up to `:` or `)`. A flag may stand only once, a minus sign only once and not
at the end. -/
def readFlags? : List Char → Bool → List Char → Flags → Option (Flags × List Char)
  | _, _, [], _ => none
  | seen, off, c :: cs, f =>
    if c = ':' ∨ c = ')' then
      if seen.head? = some '-' then none else some (f, c :: cs)
    else if seen.contains c then none
    else
      match c with
      | '-' => readFlags? ('-' :: seen) true cs f
      | 'i' => readFlags? ('i' :: seen) off cs { f with caseless := !off }
      | 'm' => readFlags? ('m' :: seen) off cs { f with multiLine := !off }
      | 's' => readFlags? ('s' :: seen) off cs { f with dotAll := !off }
      | 'U' => readFlags? ('U' :: seen) off cs f
      | 'u' => readFlags? ('u' :: seen) off cs { f with unicode := !off }
      | 'R' => readFlags? ('R' :: seen) off cs { f with returns := !off }
      | 'x' => readFlags? ('x' :: seen) off cs { f with verbose := !off }
      | _ => none

def readGroupName? (cs : List Char) : Option (List Char × List Char) := do
  let (name, rest) ← Text.splitAtFirst '>' cs
  match name with
  | [] => none
  | c :: more =>
    let allowed := fun c : Char =>
      c == '_' || c == '.' || c == '[' || c == ']' || Property.alphanumeric.contains c
    if (c == '_' || Property.alphabetic.contains c) && more.all allowed then some (name, rest)
    else none

namespace Reader

def openNamed? (r : Reader) (cs : List Char) : Option Reader := do
  let (name, rest) ← readGroupName? cs
  if r.names.contains name then none
  else some { r.openGroup true r.flags rest with names := name :: r.names }

def group? (r : Reader) (cs : List Char) : Option Reader :=
  match r.flags.next cs with
  | '?' :: '=' :: _ | '?' :: '!' :: _ => none
  | '?' :: '<' :: '=' :: _ | '?' :: '<' :: '!' :: _ => none
  | '?' :: 'P' :: '<' :: rest | '?' :: '<' :: rest => r.openNamed? rest
  | '?' :: rest => do
    let (flags, rest') ← readFlags? [] false rest r.flags
    match rest' with
    | ')' :: after =>
      if rest.head? = some ')' then none
      else some { r with flags := flags, items := none :: r.items, rest := after }
    | _ :: after => some (r.openGroup false flags after)
    | [] => none
  | rest => some (r.openGroup true r.flags rest)

def readCount? (f : Flags) (cs : List Char) : Option (Nat × List Char) :=
  let rec digits : Nat → List Char → List Char → List Char × List Char
    | fuel + 1, found, c :: rest =>
      if c.isDigit then digits fuel (c :: found) (f.next rest) else (found.reverse, c :: rest)
    | _, found, rest => (found.reverse, rest)
  let (found, rest) := digits cs.length [] (cs.dropWhile Text.isBlank)
  match Numeral.readUnsigned? 4294967295 found with
  | some n => some (n, rest.dropWhile Text.isBlank)
  | none => none

def counted? (r : Reader) (cs : List Char) : Option Reader := do
  let f := r.flags
  let finish (least : Nat) (most : Option Nat) (rest : List Char) : Option Reader :=
    match rest with
    | [] => none
    | c :: rest =>
      if c = '\x7d' then
        r.repeat? least most (match f.next rest with
          | '?' :: after => after
          | after => after)
      else none
  let (least, rest) ← readCount? f (f.next cs)
  match rest with
  | ',' :: rest =>
    match f.next rest with
    | [] => none
    | c :: rest =>
      if c = '\x7d' then finish least none (c :: rest)
      else do
        let (most, rest) ← readCount? f (c :: rest)
        if least ≤ most then finish least (some most) rest else none
  | rest => finish least (some least) rest

/-- A mark behind a repetition says which way to try first; it does not change what is found. -/
def lazyMark : List Char → List Char
  | '?' :: rest => rest
  | rest => rest

def dotSet (f : Flags) : CharSet :=
  if f.dotAll then CharSet.all
  else if f.returns then (CharSet.ofHex ["a d"]).complement
  else (CharSet.ofHex ["a"]).complement

def literal? (f : Flags) (c : Char) (byte : Bool) : Option Node :=
  if !f.unicode && byte && decide (0x7f < c.toNat) then none
  else if !f.unicode && decide (0x7f < c.toNat) then some (.one (CharSet.single c))
  else some (.one (f.closeCase (CharSet.single c)))

def pushAtom? (r : Reader) (atom : Atom) (rest : List Char) : Option Reader :=
  match atom with
  | .char c byte => (literal? r.flags c byte).map fun node => r.push node rest
  | .set s => some (r.push (.one s) rest)
  | .look condition => some (r.push (.look condition) rest)

def item? (r : Reader) (c : Char) (cs : List Char) : Option Reader :=
  let f := r.flags
  match c with
  | '(' => r.group? cs
  | ')' => r.closeGroup? cs
  | '|' => some { r with branches := r.branch :: r.branches, items := [], rest := cs }
  | '[' => (readClass? f cs).map fun (s, rest) => r.push (.one s) rest
  | '?' => r.repeat? 0 (some 1) (lazyMark cs)
  | '*' => r.repeat? 0 none (lazyMark cs)
  | '+' => r.repeat? 1 none (lazyMark cs)
  | '\x7b' => r.counted? cs
  | '\\' => do
    let (atom, rest) ← readEscape? f cs
    r.pushAtom? atom rest
  | '.' => if f.unicode then some (r.push (.one (dotSet f)) cs) else none
  | '^' =>
    let look := if !f.multiLine then .textStart else if f.returns then .returnLineStart
      else .lineStart
    some (r.push (.look look) cs)
  | '$' =>
    let look := if !f.multiLine then .textEnd else if f.returns then .returnLineEnd else .lineEnd
    some (r.push (.look look) cs)
  | c => r.pushAtom? (.char c false) cs

/-- Reads to the end; each item takes at least one character. -/
def run? : Nat → Reader → Option Node
  | 0, _ => none
  | fuel + 1, r =>
    match r.flags.next r.rest with
    | [] => if r.groups.isEmpty then some r.node else none
    | c :: cs =>
      match r.item? c cs with
      | some r' => run? fuel r'
      | none => none

end Reader

def readNode? (source : String) : Option Node := do
  let node ← Reader.run? (source.length + 1) { rest := source.toList }
  if node.isWithinLimits then some node else none

instance interpreter : PatternEngine where
  fault? source := if (readNode? source).isSome then none else some "<reason>"
  finds source text := (readNode? source).any fun node => node.foundIn text

end Pattern

end ResourceTrace
