import Multipath.Text.Numeral

/-! JSON values and their two written forms: the compact form without any blank, and the
indented form with two spaces a level. -/
namespace Multipath.Json

/-- A JSON value. `other` stands for what no document of this library holds: a number with
a sign, a fraction or an exponent, or a string with half of a surrogate pair. It keeps the
text of the value as it was written. -/
inductive Value where
  | null
  | bool (b : Bool)
  | natural (n : Nat)
  | string (s : String)
  | other (text : String)
  | array (items : List Value)
  | object (fields : List (String × Value))
  deriving Repr

def hexQuad (n : Nat) : List Char :=
  [n / 4096 % 16, n / 256 % 16, n / 16 % 16, n % 16].map Nat.digitChar

/-- Quotes, backslashes and control characters are escaped, all else stands for itself. -/
def escapeChar (c : Char) : List Char :=
  if c = '"' then ['\\', '"']
  else if c = '\\' then ['\\', '\\']
  else if c = '\n' then ['\\', 'n']
  else if c = '\r' then ['\\', 'r']
  else if c = '\t' then ['\\', 't']
  else if c = Char.ofNat 8 then ['\\', 'b']
  else if c = Char.ofNat 12 then ['\\', 'f']
  else if c.toNat < 0x20 then ['\\', 'u'] ++ hexQuad c.toNat
  else [c]

def stringText (s : String) : List Char := '"' :: s.toList.flatMap escapeChar ++ ['"']

namespace Value

mutual

def compactText : Value → List Char
  | .null => "null".toList
  | .bool b => (if b then "true" else "false").toList
  | .natural n => Text.decimal n
  | .string s => stringText s
  | .other text => text.toList
  | .array items => '[' :: compactItems items ++ [']']
  | .object fields => '{' :: compactFields fields ++ ['}']

def compactItems : List Value → List Char
  | [] => []
  | [item] => compactText item
  | item :: items => compactText item ++ ',' :: compactItems items

def compactFields : List (String × Value) → List Char
  | [] => []
  | [(name, value)] => stringText name ++ ':' :: compactText value
  | (name, value) :: fields =>
    stringText name ++ ':' :: compactText value ++ ',' :: compactFields fields

end

def compact (v : Value) : String := String.ofList v.compactText

/-- A line end and the indentation of a level. -/
def newLine (level : Nat) : List Char := '\n' :: List.replicate (2 * level) ' '

mutual

/-- The form with each item and field on a line of its own. -/
def prettyText (level : Nat) : Value → List Char
  | .array [] => ['[', ']']
  | .array (item :: items) =>
    '[' :: prettyItems (level + 1) (item :: items) ++ newLine level ++ [']']
  | .object [] => ['{', '}']
  | .object (field :: fields) =>
    '{' :: prettyFields (level + 1) (field :: fields) ++ newLine level ++ ['}']
  | .null => "null".toList
  | .bool b => (if b then "true" else "false").toList
  | .natural n => Text.decimal n
  | .string s => stringText s
  | .other text => text.toList

def prettyItems (level : Nat) : List Value → List Char
  | [] => []
  | [item] => newLine level ++ prettyText level item
  | item :: items => newLine level ++ prettyText level item ++ ',' :: prettyItems level items

def prettyFields (level : Nat) : List (String × Value) → List Char
  | [] => []
  | [(name, value)] =>
    newLine level ++ stringText name ++ [':', ' '] ++ prettyText level value
  | (name, value) :: fields =>
    newLine level ++ stringText name ++ [':', ' '] ++ prettyText level value ++
      ',' :: prettyFields level fields

end

def pretty (v : Value) : String := String.ofList (v.prettyText 0)

end Value
end Multipath.Json
