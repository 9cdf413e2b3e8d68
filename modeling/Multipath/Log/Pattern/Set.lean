import Multipath.Log.Pattern

/-! Sets of characters between square brackets. A set has members, ranges, named classes
and other sets in it, and several of them may be joined by operators. It is not matched
here, so of its members there is kept only how deep they nest. -/
namespace Multipath.Log.Pattern

def classNames : List String :=
  ["alnum", "alpha", "ascii", "blank", "cntrl", "digit", "graph", "lower", "print", "punct",
    "space", "upper", "word", "xdigit"]

/-- A class by its name, behind its opening bracket: whether it is negated, and the rest. -/
def namedClass? : List Char → Option (Bool × List Char)
  | ':' :: s =>
    let (negated, s) := match s with
      | '^' :: s => (true, s)
      | s => (false, s)
    match s.dropWhile (· ≠ ':') with
    | ':' :: ']' :: rest =>
      if classNames.contains (String.ofList (s.takeWhile (· ≠ ':'))) then some (negated, rest)
      else none
    | _ => none
  | _ => none

def isMember (m : Modes) (c : Char) : Bool := if m.wide then !m.caseless else c.toNat < 0x80

def leafIf (allowed : Bool) : Option Shape := if allowed then some .leaf else none

def Symbol.memberShape? (m : Modes) : Symbol → Option Shape
  | .char c => leafIf (isMember m c)
  | .byte n => leafIf (isMember m (Char.ofNat n))
  | .kind negated => leafIf (!m.wide && !negated)
  | .any | .edge | .wordEdge => none

def rangeShape? (m : Modes) (first last : Symbol) : Option Shape := do
  let first ← first.char?
  let last ← last.char?
  leafIf (first ≤ last && isMember m first && isMember m last)

def classShape? (m : Modes) (negated : Bool) : Option Shape :=
  leafIf (if m.wide then !m.caseless else !negated)

def Symbol.inSet? (m : Modes) : List Char → Option (Symbol × List Char)
  | [] => none
  | '\\' :: rest => ofEscape? m rest
  | c :: rest => some (.char c, rest)

/-- The character that decides whether a hyphen makes a range. The mark of one comment is
passed over, but not its text. -/
def decisive? (m : Modes) (s : List Char) : Option Char :=
  if m.spaced then
    match s.dropWhile Text.isBlank with
    | '#' :: s => (s.dropWhile Text.isBlank).head?
    | s => s.head?
  else s.head?

/-- A member or a range of a set, and the rest. A hyphen at the end of a set, or before
another one, makes no range. -/
def member? (m : Modes) (s : List Char) : Option (Shape × List Char) := do
  let (first, rest) ← Symbol.inSet? m s
  match m.skip rest with
  | '-' :: behind =>
    if [some ']', some '-'].contains (decisive? m behind) then
      pure (← first.memberShape? m, '-' :: behind)
    else
      let (last, rest) ← Symbol.inSet? m (m.skip behind)
      pure (← rangeShape? m first last, rest)
  | rest => pure (← first.memberShape? m, rest)

/-- The text behind the opening bracket of a set and the sign of its negation. -/
def beginSet? (m : Modes) (s : List Char) : Option (List Char) :=
  match m.skip s with
  | '^' :: rest => if m.wide then some rest else none
  | rest => some rest

structure OpenSet where
  /-- Nothing but hyphens so far, which are members. -/
  fresh : Bool
  /-- The part before the last operator. -/
  left : Option Shape
  members : List Shape
  deriving DecidableEq, Repr

namespace OpenSet

def begun : OpenSet := ⟨true, none, []⟩

def shape (set : OpenSet) : Shape := .beside (.beside set.members :: set.left.toList)

def add (set : OpenSet) (member : Shape) : OpenSet := ⟨false, set.left, member :: set.members⟩

/-- A character that is a member where it stands, although it means something elsewhere. -/
def addSign? (set : OpenSet) (m : Modes) (c : Char) : Option OpenSet := do
  pure ⟨c = '-', set.left, (← (Symbol.char c).memberShape? m) :: set.members⟩

/-- An operator: what follows is a part of its own. -/
def operate (set : OpenSet) : OpenSet := ⟨false, some set.shape, []⟩

end OpenSet

/-- The rest of a set, up to its closing bracket. Each nested call is at a later place of
the text, so a depth of its length is never used up. -/
def setRest? (m : Modes) : Nat → OpenSet → List Char → Option (Shape × List Char)
  | 0, _, _ => none
  | depth + 1, set, s =>
    match m.skip s with
    | [] => none
    | '-' :: rest =>
      if set.fresh then do setRest? m depth (← set.addSign? m '-') rest
      else match rest with
        | '-' :: rest => setRest? m depth set.operate rest
        | _ => do
          let (member, rest) ← member? m ('-' :: rest)
          setRest? m depth (set.add member) rest
    | ']' :: rest =>
      if set.fresh && set.members.isEmpty then do setRest? m depth (← set.addSign? m ']') rest
      else some (set.shape.around, rest)
    | '&' :: '&' :: rest | '~' :: '~' :: rest => setRest? m depth set.operate rest
    | '[' :: rest =>
      match namedClass? rest with
      | some (negated, rest) => do setRest? m depth (set.add (← classShape? m negated)) rest
      | none => do
        let (inner, rest) ← setRest? m depth .begun (← beginSet? m rest)
        setRest? m depth (set.add inner) rest
    | s => do
      let (member, rest) ← member? m s
      setRest? m depth (set.add member) rest

def set? (m : Modes) (s : List Char) : Option (Shape × List Char) := do
  setRest? m (s.length + 1) .begun (← beginSet? m s)

end Multipath.Log.Pattern
