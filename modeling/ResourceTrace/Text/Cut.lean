/-!
Cutting text at separators that do not follow a backslash, and taking the backslashes away
afterwards. The two steps look at different things: a cut asks only for the character before
the separator, unescaping consumes a backslash together with the character after it.
-/

set_option autoImplicit false

namespace ResourceTrace.Text

/-- The pieces between the separators that do not follow a backslash. `cuts` bounds the number
of cuts, and `before` is the character in front of the text. -/
def cut (separator : Char) : Option Nat → Option Char → List Char → List (List Char)
  | some 0, _, cs => [cs]
  | _, _, [] => [[]]
  | cuts, before, c :: cs =>
    if c = separator ∧ before ≠ some '\\' then
      [] :: cut separator (cuts.map (· - 1)) (some c) cs
    else
      match cut separator cuts (some c) cs with
      | [] => [[c]]
      | piece :: rest => (c :: piece) :: rest

/-- At most `limit` pieces, and at least one; without a limit as many as there are. -/
def pieces (separator : Char) (limit : Option Nat) (cs : List Char) : List (List Char) :=
  cut separator (limit.map (· - 1)) none cs

/-- A backslash stands for the character after it; a last, lone backslash for itself. -/
def unescape : List Char → List Char
  | [] => []
  | ['\\'] => ['\\']
  | '\\' :: c :: cs => c :: unescape cs
  | c :: cs => c :: unescape cs

def escape : List Char → List Char
  | [] => []
  | c :: cs => if c = '\\' ∨ c = ',' ∨ c = '=' then '\\' :: c :: escape cs else c :: escape cs

def splitAtFirst (separator : Char) : List Char → Option (List Char × List Char)
  | [] => none
  | c :: cs =>
    if c = separator then some ([], cs)
    else (splitAtFirst separator cs).map fun (before, after) => (c :: before, after)

def dropFront? : List Char → List Char → Option (List Char)
  | [], cs => some cs
  | _ :: _, [] => none
  | f :: fs, c :: cs => if f = c then dropFront? fs cs else none

def dropBack? (back cs : List Char) : Option (List Char) :=
  (dropFront? back.reverse cs.reverse).map List.reverse

def splitAtWord (word : List Char) : List Char → Option (List Char × List Char)
  | [] => (dropFront? word []).map fun after => ([], after)
  | c :: cs =>
    match dropFront? word (c :: cs) with
    | some after => some ([], after)
    | none => (splitAtWord word cs).map fun (before, after) => (c :: before, after)

def occursIn (word cs : List Char) : Bool := (splitAtWord word cs).isSome

def join (separator : List Char) : List (List Char) → List Char
  | [] => []
  | [piece] => piece
  | piece :: rest => piece ++ separator ++ join separator rest

def fields (separator : Char) : List Char → List (List Char)
  | [] => [[]]
  | c :: cs =>
    if c = separator then [] :: fields separator cs
    else
      match fields separator cs with
      | [] => [[c]]
      | field :: rest => (c :: field) :: rest

theorem cut_ne_nil (separator : Char) (cuts : Option Nat) (before : Option Char)
    (cs : List Char) : cut separator cuts before cs ≠ [] := by
  fun_induction cut separator cuts before cs <;> simp_all

@[simp] theorem dropFront?_append (front cs : List Char) :
    dropFront? front (front ++ cs) = some cs := by
  induction front with
  | nil => rfl
  | cons f fs ih => simpa [dropFront?] using ih

theorem eq_append_of_dropFront? {front cs rest : List Char}
    (h : dropFront? front cs = some rest) : cs = front ++ rest := by
  fun_induction dropFront? front cs with
  | case1 => simp_all
  | case2 => simp at h
  | case3 f fs cs ih => simp [ih h]
  | case4 => simp at h

end ResourceTrace.Text
