import ResourceTrace.Text.Numeral

set_option autoImplicit false

namespace ResourceTrace

inductive Json where
  | num (n : Nat)
  | str (s : String)
  | arr (items : List Json)
  | obj (fields : List (String × Json))
  deriving Repr

namespace Json

def escapeChar (c : Char) : List Char :=
  if c = '"' then ['\\', '"']
  else if c = '\\' then ['\\', '\\']
  else if c = '\x08' then ['\\', 'b']
  else if c = '\t' then ['\\', 't']
  else if c = '\n' then ['\\', 'n']
  else if c = '\x0c' then ['\\', 'f']
  else if c = '\r' then ['\\', 'r']
  else if c.toNat < 0x20 then
    '\\' :: 'u' :: '0' :: '0' :: Nat.digitChar (c.toNat / 16) :: [Nat.digitChar (c.toNat % 16)]
  else [c]

def quote (s : String) : List Char := '"' :: (s.toList.flatMap escapeChar ++ ['"'])

def newline (level : Nat) : List Char := '\n' :: List.replicate (2 * level) ' '

mutual

def compact : Json → List Char
  | num n => Nat.toDigits 10 n
  | str s => quote s
  | arr items => '[' :: (compactItems items ++ [']'])
  | obj fields => '\x7b' :: (compactFields fields ++ ['\x7d'])

def compactItems : List Json → List Char
  | [] => []
  | [item] => compact item
  | item :: items => compact item ++ ',' :: compactItems items

def compactFields : List (String × Json) → List Char
  | [] => []
  | [(key, value)] => quote key ++ ':' :: compact value
  | (key, value) :: fields => quote key ++ ':' :: (compact value ++ ',' :: compactFields fields)

end

mutual

def spread (level : Nat) : Json → List Char
  | num n => Nat.toDigits 10 n
  | str s => quote s
  | arr [] => ['[', ']']
  | arr (item :: items) =>
    '[' :: (spreadItems (level + 1) (item :: items) ++ newline level ++ [']'])
  | obj [] => ['\x7b', '\x7d']
  | obj (field :: fields) =>
    '\x7b' :: (spreadFields (level + 1) (field :: fields) ++ newline level ++ ['\x7d'])

def spreadItems (level : Nat) : List Json → List Char
  | [] => []
  | [item] => newline level ++ spread level item
  | item :: items => newline level ++ spread level item ++ ',' :: spreadItems level items

def spreadFields (level : Nat) : List (String × Json) → List Char
  | [] => []
  | [(key, value)] => newline level ++ quote key ++ ':' :: ' ' :: spread level value
  | (key, value) :: fields =>
    newline level ++ quote key ++ ':' :: ' ' ::
      (spread level value ++ ',' :: spreadFields level fields)

end

def indent (level : Nat) : List (List Char) := List.replicate level [' ', ' ']

/-- What a form puts around its items: in front of the first one and of each later one, behind a
key, and behind the last item. The pieces depend on the level of the items, or of the end. -/
structure Formatter where
  first : Nat → List (List Char)
  next : Nat → List (List Char)
  colon : List Char
  last : Nat → List (List Char)

namespace Formatter

def compact : Formatter := ⟨fun _ => [], fun _ => [[',']], [':'], fun _ => []⟩

def spread : Formatter :=
  ⟨fun level => ['\n'] :: indent level, fun level => [',', '\n'] :: indent level, [':', ' '],
    fun level => ['\n'] :: indent level⟩

end Formatter

def quotePieces (s : String) : List (List Char) := ['"'] :: (s.toList.map escapeChar ++ [['"']])

mutual

def pieces (f : Formatter) (level : Nat) : Json → List (List Char)
  | num n => [Nat.toDigits 10 n]
  | str s => quotePieces s
  | arr [] => [['['], [']']]
  | arr (item :: items) =>
    ['['] :: (f.first (level + 1) ++ pieces f (level + 1) item ++
      nextItems f (level + 1) items ++ f.last level ++ [[']']])
  | obj [] => [['\x7b'], ['\x7d']]
  | obj ((key, value) :: fields) =>
    ['\x7b'] :: (f.first (level + 1) ++ quotePieces key ++ f.colon ::
      (pieces f (level + 1) value ++ nextFields f (level + 1) fields ++ f.last level ++
        [['\x7d']]))

def nextItems (f : Formatter) (level : Nat) : List Json → List (List Char)
  | [] => []
  | item :: items => f.next level ++ pieces f level item ++ nextItems f level items

def nextFields (f : Formatter) (level : Nat) : List (String × Json) → List (List Char)
  | [] => []
  | (key, value) :: fields =>
    f.next level ++ quotePieces key ++ f.colon ::
      (pieces f level value ++ nextFields f level fields)

end

end Json

end ResourceTrace
