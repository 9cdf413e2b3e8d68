import Multipath.Text.Alphanumeric
import Multipath.Text.Blank
import Multipath.Text.Numeral

/-! Patterns for the values of fields. No value is compared with a pattern here, but a
directive whose pattern could not be matched is wrong. So of a pattern there is kept only
what decides that: how deep it nests, and whether it asks for the edges of words. What a
pattern may hold depends on the modes in which it is read. No tables of Unicode are at
hand, so in the wide mode letters have no case and there are no kinds of characters. What
is matched is text, so in the narrow mode nothing may stand for a byte beyond ASCII. -/
namespace Multipath.Log.Pattern

inductive Fault where
  | unmatchable
  /-- It asks for the edges of words in the sense of Unicode. -/
  | wordEdge
  deriving DecidableEq, Repr

def Fault.message : Fault → String
  | .unmatchable => "error building NFA"
  | .wordEdge =>
    "unsupported regex feature for DFAs: cannot build DFAs for regexes with Unicode word " ++
      "boundaries; switch to ASCII word boundaries, or heuristically enable Unicode word " ++
      "boundaries or use a different regex engine"

structure Modes where
  /-- Letters stand for either case. -/
  caseless : Bool
  /-- Characters are those of Unicode, and not bytes. -/
  wide : Bool
  /-- Blanks and comments have no meaning. -/
  spaced : Bool
  deriving DecidableEq, Repr

def Modes.initial : Modes := ⟨false, true, false⟩

/-- The letters that switch modes, those without an influence here among them. -/
def Modes.letters : List Char := "imsUuRx".toList

def Modes.switch (m : Modes) (on off : List Char) : Modes :=
  let now (letter : Char) (before : Bool) := on.contains letter || (before && !off.contains letter)
  ⟨now 'i' m.caseless, now 'u' m.wide, now 'x' m.spaced⟩

structure Shape where
  depth : Nat
  hasWordEdge : Bool
  deriving DecidableEq, Repr

namespace Shape

def leaf : Shape := ⟨0, false⟩

def around (shape : Shape) : Shape := ⟨shape.depth + 1, shape.hasWordEdge⟩

/-- Parts side by side. One part alone is no more than itself. -/
def beside : List Shape → Shape
  | [] => leaf
  | [shape] => shape
  | shapes => around ⟨(shapes.map depth).foldl max 0, shapes.any hasWordEdge⟩

end Shape

/-- Pass over blanks and comments, from inside or outside of a comment. -/
def skipBlanks : (comment : Bool) → List Char → List Char
  | _, [] => []
  | true, c :: rest => skipBlanks (c ≠ '\n') rest
  | false, c :: rest =>
    if Text.isBlank c then skipBlanks false rest
    else if c = '#' then skipBlanks true rest
    else c :: rest

def Modes.skip (m : Modes) (s : List Char) : List Char :=
  if m.spaced then skipBlanks false s else s

inductive Symbol where
  | char (c : Char)
  /-- A character by a number of two digits, which in the narrow mode is a byte. -/
  | byte (n : Nat)
  /-- Any character but a line end. -/
  | any
  /-- The characters of a kind, or all others: digits, blanks, characters of words. -/
  | kind (negated : Bool)
  /-- The beginning or the end of the text or of a line. -/
  | edge
  | wordEdge
  deriving DecidableEq, Repr

namespace Symbol

def char? : Symbol → Option Char
  | .char c => some c
  | .byte n => some (Char.ofNat n)
  | _ => none

/-- The shape of a symbol by itself, if it can be matched. -/
def shape? (m : Modes) : Symbol → Option Shape
  | .char _ => if m.wide && m.caseless then none else some .leaf
  | .byte n => if (if m.wide then m.caseless else 0x80 ≤ n) then none else some .leaf
  | .any => if m.wide then some .leaf else none
  | .kind negated => if m.wide || negated then none else some .leaf
  | .edge => some .leaf
  | .wordEdge => some ⟨0, m.wide⟩

def isEscapable (c : Char) : Bool :=
  c.toNat < 0x80 && !c.isAlphanum && c ≠ '<' && c ≠ '>'

/-- How many digits follow a letter that announces the number of a character. -/
def digits? : Char → Option Nat
  | 'x' => some 2
  | 'u' => some 4
  | 'U' => some 8
  | _ => none

/-- The number that hexadecimal digits write, and the rest. What has no meaning may stand
before each of them. -/
def number? (m : Modes) : Nat → Nat → List Char → Option (Nat × List Char)
  | 0, n, s => some (n, s)
  | digits + 1, n, s =>
    match m.skip s with
    | [] => none
    | c :: rest => do number? m digits (n * 16 + (← Text.hexDigit? c)) rest

def ofLetter? : Char → Option Symbol
  | 'a' => some (.char (Char.ofNat 7))
  | 'f' => some (.char (Char.ofNat 12))
  | 'n' => some (.char '\n')
  | 'r' => some (.char '\r')
  | 't' => some (.char '\t')
  | 'v' => some (.char (Char.ofNat 11))
  | 'd' | 's' | 'w' => some (.kind false)
  | 'D' | 'S' | 'W' => some (.kind true)
  | 'A' | 'z' => some .edge
  | 'b' | 'B' | '<' | '>' => some .wordEdge
  | _ => none

def ofEscape? (m : Modes) : List Char → Option (Symbol × List Char)
  | [] => none
  | c :: rest =>
    match digits? c with
    | some digits => do
      let (n, rest) ← number? m digits 0 rest
      if n.isValidChar then pure (if digits = 2 then .byte n else .char (Char.ofNat n), rest)
      else none
    | none =>
      if isEscapable c then some (.char c, rest) else (ofLetter? c).map fun symbol => (symbol, rest)

end Symbol
end Multipath.Log.Pattern
