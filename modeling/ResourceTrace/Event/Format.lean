import ResourceTrace.Event.Staging
import ResourceTrace.Text.Cut

/-!
Formats of events. A format is read from the left into tokens: plain characters, `%s` for the
next value, `%<number>$s` for the value with that number, `%n` for a line break, `%%` for a
percent sign, and a stray percent sign where none of these stands. Rendering puts the tokens'
texts side by side, so that the text of a value is never read as a format.
-/

set_option autoImplicit false

namespace ResourceTrace.Format

inductive Token where
  | plain (c : Char)
  | next
  | lineBreak
  | percent
  | numbered (number : Nat)
  | stray
  deriving DecidableEq, Repr

def numbered? (cs : List Char) : Option (Nat × List Char) :=
  let digits := cs.takeWhile Char.isDigit
  match Numeral.readUnsigned? Numeral.maxUnsigned64 digits with
  | none => none
  | some number =>
    if number = 0 then none
    else match cs.dropWhile Char.isDigit with
      | '$' :: 's' :: rest => some (number, rest)
      | _ => none

theorem length_lt_of_numbered? {cs rest : List Char} {number : Nat}
    (h : numbered? cs = some (number, rest)) : rest.length < cs.length := by
  have hle : (cs.dropWhile Char.isDigit).length ≤ cs.length :=
    (List.dropWhile_sublist _).length_le
  unfold numbered? at h
  simp only at h
  split at h
  · simp at h
  · split at h
    · simp at h
    · split at h
      · next hd =>
        simp only [Option.some.injEq, Prod.mk.injEq] at h
        rw [hd, h.2] at hle
        simp only [List.length_cons] at hle
        omega
      · simp at h

def tokens : List Char → List Token
  | [] => []
  | '%' :: 's' :: cs => .next :: tokens cs
  | '%' :: 'n' :: cs => .lineBreak :: tokens cs
  | '%' :: '%' :: cs => .percent :: tokens cs
  | '%' :: cs =>
    match _h : numbered? cs with
    | some (number, rest) => .numbered number :: tokens rest
    | none => .stray :: tokens cs
  | c :: cs => .plain c :: tokens cs
termination_by cs => cs.length
decreasing_by
  all_goals try have hlt := length_lt_of_numbered? _h
  all_goals simp only [List.length_cons]; omega

/-- The text of the value with a number, counted from 0; a missing value counts as `null`. -/
def valueText (values : List Value) (index : Nat) : List Char :=
  ((values[index]?).getD Value.null).text.toList

def renderTokens (values : List Value) (next : Nat) : List Token → List Char
  | [] => []
  | .plain c :: ts => c :: renderTokens values next ts
  | .next :: ts => valueText values next ++ renderTokens values (next + 1) ts
  | .lineBreak :: ts => '\n' :: renderTokens values next ts
  | .percent :: ts => '%' :: renderTokens values next ts
  | .numbered number :: ts => valueText values (number - 1) ++ renderTokens values next ts
  | .stray :: ts => '%' :: renderTokens values next ts

def render (format : String) (values : List Value) : String :=
  String.ofList (renderTokens values 0 (tokens format.toList))

def listing (family count : Nat) : String :=
  (List.range count).foldl (fun format i => format ++ s!" %{i + 1}$s")
    s!"Values for generic logger {family}:"

end ResourceTrace.Format
