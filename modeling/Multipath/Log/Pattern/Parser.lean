import Multipath.Log.Pattern.Set

/-! Reading patterns. A pattern is read item by item, with the groups that are open on a
stack. Modes that are switched inside of a group hold up to its end. -/
namespace Multipath.Log.Pattern

/-- A group that is open, or the whole pattern. -/
structure Group where
  /-- The modes at the place that has been reached. -/
  modes : Modes
  /-- The alternatives before the last bar. -/
  alternatives : List Shape
  /-- The items behind it, the last one first. -/
  items : List Shape
  /-- The last item can be repeated. -/
  isRepeatable : Bool
  deriving DecidableEq, Repr

namespace Group

def begun (modes : Modes) : Group := ⟨modes, [], [], false⟩

def shape (g : Group) : Shape := .beside (.beside g.items :: g.alternatives)

def add (g : Group) (item : Shape) : Group := ⟨g.modes, g.alternatives, item :: g.items, true⟩

def turn (g : Group) : Group := ⟨g.modes, .beside g.items :: g.alternatives, [], false⟩

/-- Switched modes are an item, but not one to be repeated. -/
def switch (g : Group) (modes : Modes) : Group :=
  ⟨modes, g.alternatives, .leaf :: g.items, false⟩

def repeated? (g : Group) : Option Group :=
  match g.items, g.isRepeatable with
  | item :: items, true => some ⟨g.modes, g.alternatives, item.around :: items, true⟩
  | _, _ => none

end Group

/-- What has been read of a pattern: the innermost open group, those around it, and the
names of groups. -/
structure Reading where
  group : Group
  outer : List Group
  names : List (List Char)
  deriving DecidableEq, Repr

def isNameStart (c : Char) : Bool := c = '_' || Text.isAlphabetic c

def isNamePart (c : Char) : Bool :=
  c = '_' || c = '.' || c = '[' || c = ']' || Text.isAlphanumeric c

def isName (name : List Char) : Bool := name.head?.any isNameStart && name.all isNamePart

/-- Letters of modes, behind a hyphen those that are switched off. -/
def areSwitches (letters : List Char) : Bool :=
  letters.all (fun c => c = '-' || Modes.letters.contains c) && decide letters.Nodup &&
    letters.getLast? != some '-'

namespace Reading

def begun : Reading := ⟨.begun .initial, [], []⟩

def add (r : Reading) (item : Shape) : Reading := ⟨r.group.add item, r.outer, r.names⟩

def enter (r : Reading) (modes : Modes) : Reading := ⟨.begun modes, r.group :: r.outer, r.names⟩

def leave? (r : Reading) : Option Reading :=
  match r.outer with
  | [] => none
  | up :: outer => some ⟨up.add r.group.shape.around, outer, r.names⟩

/-- Open a group with a name, which ends with an angle bracket. No two groups have the same
name. -/
def enterNamed? (r : Reading) (s : List Char) : Option (Reading × List Char) :=
  let name := s.takeWhile (· ≠ '>')
  match s.dropWhile (· ≠ '>') with
  | _ :: rest =>
    if isName name && !r.names.contains name then
      some (⟨.begun r.group.modes, r.group :: r.outer, name :: r.names⟩, rest)
    else none
  | [] => none

/-- Switch modes, up to the end of the group or in a group of their own. -/
def switch? (r : Reading) (s : List Char) : Option (Reading × List Char) :=
  let letters := s.takeWhile fun c => c ≠ ':' && c ≠ ')'
  let modes := r.group.modes.switch (letters.takeWhile (· ≠ '-')) (letters.dropWhile (· ≠ '-'))
  if !areSwitches letters then none
  else match s.drop letters.length with
    | ':' :: rest => some (r.enter modes, rest)
    | ')' :: rest =>
      if letters.isEmpty then none else some (⟨r.group.switch modes, r.outer, r.names⟩, rest)
    | _ => none

def enter? (r : Reading) (s : List Char) : Option (Reading × List Char) :=
  match r.group.modes.skip s with
  | '?' :: 'P' :: '<' :: rest | '?' :: '<' :: rest => r.enterNamed? rest
  | '?' :: rest => r.switch? rest
  | rest => some (r.enter r.group.modes, rest)

def addSymbol? (r : Reading) (symbol : Symbol) : Option Reading :=
  (symbol.shape? r.group.modes).map r.add

def repeated? (r : Reading) : Option Reading :=
  r.group.repeated?.map fun group => ⟨group, r.outer, r.names⟩

/-- A question mark behind a repetition belongs to it. -/
def dropLazy : List Char → List Char
  | '?' :: rest => rest
  | s => s

/-- Read one item. A brace would begin a repetition with a count, which must be closed by
another brace; no field holds that one. -/
def next? (r : Reading) : List Char → Option (Reading × List Char)
  | [] | '{' :: _ => none
  | '(' :: rest => r.enter? rest
  | ')' :: rest => r.leave?.map fun r => (r, rest)
  | '|' :: rest => some (⟨r.group.turn, r.outer, r.names⟩, rest)
  | '[' :: rest => (set? r.group.modes rest).map fun (shape, rest) => (r.add shape, rest)
  | '?' :: rest | '*' :: rest | '+' :: rest => r.repeated?.map fun r => (r, dropLazy rest)
  | '\\' :: rest => do
    let (symbol, rest) ← Symbol.ofEscape? r.group.modes rest
    pure (← r.addSymbol? symbol, rest)
  | '.' :: rest => (r.addSymbol? .any).map fun r => (r, rest)
  | '^' :: rest | '$' :: rest => (r.addSymbol? .edge).map fun r => (r, rest)
  | c :: rest => (r.addSymbol? (.char c)).map fun r => (r, rest)

/-- The shape of a pattern that has been read up to a text. Each item has a character, so
there are no more items than characters. -/
def finish? : Nat → Reading → List Char → Option Shape
  | 0, _, _ => none
  | items + 1, r, s =>
    match r.group.modes.skip s with
    | [] => if r.outer.isEmpty then some r.group.shape else none
    | s => do
      let (r, rest) ← r.next? s
      finish? items r rest

end Reading

def greatestDepth : Nat := 250

def shape? (s : List Char) : Option Shape := Reading.begun.finish? (s.length + 1) s

def fault? (s : List Char) : Option Fault :=
  match shape? s with
  | none => some .unmatchable
  | some shape =>
    if greatestDepth < shape.depth then some .unmatchable
    else if shape.hasWordEdge then some .wordEdge
    else none

end Multipath.Log.Pattern
