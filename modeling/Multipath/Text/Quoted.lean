import Multipath.Text.Grapheme

/-! Quoted text: a text between double quotes in which every character can be told from
its neighbours. The quote, the backslash and what cannot be seen by itself are written as
escapes; an apostrophe is not. -/
namespace Multipath.Text

/-- A number with hexadecimal digits in lower case and no leading zero. -/
def hex (n : Nat) : List Char := Nat.toDigits 16 n

/-- A byte with two hexadecimal digits in upper case. -/
def hexByte (b : UInt8) : List Char :=
  [b.toNat / 16, b.toNat % 16].map fun d => (Nat.digitChar d).toUpper

def escapeChar (c : Char) : List Char :=
  if c = '"' then ['\\', '"']
  else if c = '\\' then ['\\', '\\']
  else if c = '\n' then ['\\', 'n']
  else if c = '\r' then ['\\', 'r']
  else if c = '\t' then ['\\', 't']
  else if c = Char.ofNat 0 then ['\\', '0']
  else if standsAlone c then [c]
  else ['\\', 'u', '{'] ++ hex c.toNat ++ ['}']

def quoted (s : List Char) : List Char := '"' :: s.flatMap escapeChar ++ ['"']

end Multipath.Text
