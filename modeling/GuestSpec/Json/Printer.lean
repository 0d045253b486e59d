import GuestSpec.Decimal.Layout
import GuestSpec.Json.Basic

/-!
# Writing documents

The compact text of a value, and the text with one field or item a line and two spaces of
indentation a level.
-/

namespace GuestSpec.Json

/-- A character inside a string. Quotes, backslashes and control characters are escaped. -/
def escapeChar (c : Char) : List Char :=
  if c = '"' then ['\\', '"']
  else if c = '\\' then ['\\', '\\']
  else if c = '\n' then ['\\', 'n']
  else if c = '\r' then ['\\', 'r']
  else if c = '\t' then ['\\', 't']
  else if c = '\x08' then ['\\', 'b']
  else if c = '\x0c' then ['\\', 'f']
  else if c.toNat < 0x20 then ['\\', 'u'] ++ Numeral.padZeros 4 (Numeral.hex c.toNat)
  else [c]

def renderString (s : String) : List Char := '"' :: (s.toList.flatMap escapeChar ++ ['"'])

def renderInt (n : Int) : List Char :=
  if n < 0 then '-' :: Numeral.decimal n.natAbs else Numeral.decimal n.natAbs

mutual

/-- The characters of the compact text. -/
def render : Json → List Char
  | null => ['n', 'u', 'l', 'l']
  | bool true => ['t', 'r', 'u', 'e']
  | bool false => ['f', 'a', 'l', 's', 'e']
  | int n => renderInt n
  | float bits => Decimal.scientific bits
  | str s => renderString s
  | arr items => '[' :: (renderItems items ++ [']'])
  | obj fields => '\x7b' :: (renderFields fields ++ ['\x7d'])

def renderItems : List Json → List Char
  | [] => []
  | [a] => render a
  | a :: as => render a ++ ',' :: renderItems as

def renderFields : List (String × Json) → List Char
  | [] => []
  | [(k, a)] => renderString k ++ ':' :: render a
  | (k, a) :: as => renderString k ++ ':' :: (render a ++ ',' :: renderFields as)

end

def newline (level : Nat) : List Char := '\n' :: List.replicate (2 * level) ' '

mutual

/-- The characters of the indented text, at a level of indentation. -/
def renderAt (level : Nat) : Json → List Char
  | arr [] => ['[', ']']
  | arr (a :: as) => '[' :: (renderItemsAt (level + 1) (a :: as) ++ newline level ++ [']'])
  | obj [] => ['\x7b', '\x7d']
  | obj (f :: fs) =>
    '\x7b' :: (renderFieldsAt (level + 1) (f :: fs) ++ newline level ++ ['\x7d'])
  | null => render null
  | bool b => render (bool b)
  | int n => render (int n)
  | float bits => render (float bits)
  | str s => render (str s)

def renderItemsAt (level : Nat) : List Json → List Char
  | [] => []
  | [a] => newline level ++ renderAt level a
  | a :: as => newline level ++ renderAt level a ++ ',' :: renderItemsAt level as

def renderFieldsAt (level : Nat) : List (String × Json) → List Char
  | [] => []
  | [(k, a)] => newline level ++ renderString k ++ ':' :: ' ' :: renderAt level a
  | (k, a) :: as =>
    newline level ++ renderString k ++ ':' :: ' ' ::
      (renderAt level a ++ ',' :: renderFieldsAt level as)

end

def compact (j : Json) : String := String.ofList (render j)

def pretty (j : Json) : String := String.ofList (renderAt 0 j)

end GuestSpec.Json
