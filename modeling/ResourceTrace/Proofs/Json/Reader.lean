import ResourceTrace.Proofs.Text.Digits

set_option autoImplicit false

namespace ResourceTrace.Json

/-- A number is `mantissa * 10 ^ exponent`. -/
inductive Value where
  | null
  | bool (b : Bool)
  | number (mantissa exponent : Int)
  | text (s : String)
  | list (items : List Value)
  | object (fields : List (String × Value))
  deriving Repr

inductive Token where
  | openList
  | closeList
  | openObject
  | closeObject
  | comma
  | colon
  | text (s : String)
  | scalar (v : Value)
  deriving Repr

/-- How far a number was read: the part that its last character belongs to. -/
inductive Part where
  | sign
  | zero
  | whole
  | point
  | fraction
  | mark
  | power
  | exponent
  deriving DecidableEq, Repr

structure Number where
  part : Part := .sign
  negative : Bool := false
  digits : Nat := 0
  places : Nat := 0
  shrinks : Bool := false
  exponent : Nat := 0
  deriving DecidableEq, Repr

namespace Number

def push (n : Number) (part : Part) (c : Char) : Number :=
  { n with part, digits := 10 * n.digits + Numeral.digit c }

def pushPlace (n : Number) (c : Char) : Number :=
  { n.push .fraction c with places := n.places + 1 }

def pushExponent (n : Number) (c : Char) : Number :=
  { n with part := .exponent, exponent := 10 * n.exponent + Numeral.digit c }

def step (n : Number) (c : Char) : Option Number :=
  match n.part with
  | .sign =>
    if c = '0' then some (n.push .zero c) else if c.isDigit then some (n.push .whole c) else none
  | .zero => if c = '.' then some { n with part := .point } else ifMark
  | .whole =>
    if c.isDigit then some (n.push .whole c)
    else if c = '.' then some { n with part := .point } else ifMark
  | .point => if c.isDigit then some (n.pushPlace c) else none
  | .fraction => if c.isDigit then some (n.pushPlace c) else ifMark
  | .mark =>
    if c = '+' ∨ c = '-' then some { n with part := .power, shrinks := c = '-' } else ifExponent
  | .power => ifExponent
  | .exponent => ifExponent
where
  ifMark := if c = 'e' ∨ c = 'E' then some { n with part := .mark } else none
  ifExponent := if c.isDigit then some (n.pushExponent c) else none

def isComplete (n : Number) : Bool :=
  match n.part with
  | .zero | .whole | .fraction | .exponent => true
  | .sign | .point | .mark | .power => false

def value? (n : Number) : Option Value :=
  if n.isComplete then
    let mantissa : Int := if n.negative then -n.digits else n.digits
    let exponent : Int := if n.shrinks then -n.exponent else n.exponent
    some (.number mantissa (exponent - n.places))
  else none

end Number

/-- Where in a text: outside of an escape, or in one. A character beyond the first 65536 is escaped
as two units, the first of which is `high`. -/
inductive Escape where
  | none
  | backslash (high : Option Nat)
  | unit (high : Option Nat) (missing value : Nat)
  | between (high : Nat)
  deriving DecidableEq, Repr

namespace Escape

def letter (c : Char) : Option Char :=
  match c with
  | '"' => some '"'
  | '\\' => some '\\'
  | '/' => some '/'
  | 'b' => some '\x08'
  | 'f' => some '\x0c'
  | 'n' => some '\n'
  | 'r' => some '\r'
  | 't' => some '\t'
  | _ => .none

def isHigh (unit : Nat) : Bool := decide (0xD800 ≤ unit ∧ unit < 0xDC00)

def isLow (unit : Nat) : Bool := decide (0xDC00 ≤ unit ∧ unit < 0xE000)

/-- What a unit stands for. A low unit stands behind a high one, and nowhere else. -/
def ofUnit (high : Option Nat) (unit : Nat) : Option (List Char × Escape) :=
  match high with
  | .none =>
    if isHigh unit then some ([], .between unit)
    else if isLow unit then .none else some ([Char.ofNat unit], .none)
  | some high =>
    if isLow unit then
      some ([Char.ofNat (0x10000 + 0x400 * (high - 0xD800) + (unit - 0xDC00))], .none)
    else .none

def step (e : Escape) (c : Char) : Option (List Char × Escape) :=
  match e with
  | .none =>
    if c = '\\' then some ([], .backslash .none)
    else if c.toNat < 0x20 then .none else some ([c], .none)
  | .backslash high =>
    if c = 'u' then some ([], .unit high 4 0)
    else if high = .none then (letter c).map fun d => ([d], .none) else .none
  | .unit high missing value =>
    (Numeral.hexDigit? c).bind fun d =>
      if missing ≤ 1 then ofUnit high (16 * value + d)
      else some ([], .unit high (missing - 1) (16 * value + d))
  | .between high => if c = '\\' then some ([], .backslash (some high)) else .none

end Escape

/-- What the characters so far have begun: a text with the characters it has by now, a number, or a
word with the characters that have to follow. -/
inductive Mode where
  | blank
  | text (done : List Char) (escape : Escape)
  | number (n : Number)
  | word (rest : List Char) (v : Value)
  deriving Repr

namespace Mode

def start (c : Char) : Option (List Token × Mode) :=
  match c with
  | ' ' | '\t' | '\n' | '\r' => some ([], .blank)
  | '[' => some ([.openList], .blank)
  | ']' => some ([.closeList], .blank)
  | '\x7b' => some ([.openObject], .blank)
  | '\x7d' => some ([.closeObject], .blank)
  | ',' => some ([.comma], .blank)
  | ':' => some ([.colon], .blank)
  | '"' => some ([], .text [] .none)
  | 'n' => some ([], .word ['u', 'l', 'l'] .null)
  | 't' => some ([], .word ['r', 'u', 'e'] (.bool true))
  | 'f' => some ([], .word ['a', 'l', 's', 'e'] (.bool false))
  | '-' => some ([], .number { negative := true })
  | c => (Number.step {} c).map fun n => ([], .number n)

/-- A number ends in front of the first character that does not go on with it. -/
def step (m : Mode) (c : Char) : Option (List Token × Mode) :=
  match m with
  | .blank => start c
  | .text done escape =>
    if escape = .none ∧ c = '"' then some ([.text (String.ofList done)], .blank)
    else (escape.step c).map fun p => ([], .text (done ++ p.1) p.2)
  | .number n =>
    match n.step c with
    | some n' => some ([], .number n')
    | none => n.value?.bind fun v => (start c).map fun p => (.scalar v :: p.1, p.2)
  | .word [] _ => none
  | .word (d :: rest) v =>
    if c = d then (if rest = [] then some ([.scalar v], .blank) else some ([], .word rest v))
    else none

def finish : Mode → Option (List Token)
  | .blank => some []
  | .number n => n.value?.map fun v => [.scalar v]
  | .text _ _ => none
  | .word _ _ => none

def lex : Mode → List Char → Option (List Token)
  | m, [] => m.finish
  | m, c :: cs => (m.step c).bind fun p => (lex p.2 cs).map (p.1 ++ ·)

end Mode

/-- A list or an object that is not complete: its items so far, and the name of the field that is
being read. -/
inductive Pending where
  | list (items : List Value)
  | object (fields : List (String × Value)) (name : String)
  deriving Repr

inductive Parse where
  | value (within : List Pending)
  | item (within : List Pending)
  | field (within : List Pending)
  | nextField (within : List Pending) (fields : List (String × Value))
  | colon (within : List Pending) (fields : List (String × Value)) (name : String)
  | behind (within : List Pending) (v : Value)
  deriving Repr

namespace Parse

def beginValue (within : List Pending) : Token → Option Parse
  | .text s => some (.behind within (.text s))
  | .scalar v => some (.behind within v)
  | .openList => some (.item within)
  | .openObject => some (.field within)
  | _ => none

def step (s : Parse) (t : Token) : Option Parse :=
  match s, t with
  | .value within, t => beginValue within t
  | .item within, .closeList => some (.behind within (.list []))
  | .item within, t => beginValue (.list [] :: within) t
  | .field within, .closeObject => some (.behind within (.object []))
  | .field within, .text name => some (.colon within [] name)
  | .nextField within fields, .text name => some (.colon within fields name)
  | .colon within fields name, .colon => some (.value (.object fields name :: within))
  | .behind (.list items :: within) v, .comma => some (.value (.list (items ++ [v]) :: within))
  | .behind (.list items :: within) v, .closeList => some (.behind within (.list (items ++ [v])))
  | .behind (.object fields name :: within) v, .comma => some (.nextField within (fields ++ [(name, v)]))
  | .behind (.object fields name :: within) v, .closeObject =>
    some (.behind within (.object (fields ++ [(name, v)])))
  | _, _ => none

def finish : Parse → Option Value
  | .behind [] v => some v
  | _ => none

def parse : Parse → List Token → Option Value
  | s, [] => s.finish
  | s, t :: ts => (s.step t).bind fun s' => parse s' ts

end Parse

def read (text : String) : Option Value :=
  (Mode.blank.lex text.toList).bind (Parse.parse (.value []))

end ResourceTrace.Json
