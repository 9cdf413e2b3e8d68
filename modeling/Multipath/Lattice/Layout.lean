import Multipath.Lattice

/-! The two layouts in which a lattice block is written. The arrow layout sets the children
of a parent in brackets behind an arrow, the comma layout puts commas between all labels;
a parent without children stands alone in both. -/
namespace Multipath.Lattice

inductive Layout where
  | arrow
  | comma
  deriving DecidableEq, Repr

/-- A label that stands for itself in a record: it is not empty, has no blank in it and no
punctuation at its ends, and is not the arrow. -/
structure IsPlain (label : List Char) : Prop where
  ne_nil : label ≠ []
  unbroken : ∀ c ∈ label, Text.isBlank c = false
  first : ∀ c ∈ label.head?, isSeparator c = false
  last : ∀ c ∈ label.getLast?, isSeparator c = false
  ne_arrow : label ≠ Lattice.arrow

/-- A parent and its children, as the prober writes them. -/
structure Row where
  parent : List Char
  children : List (List Char)
  deriving DecidableEq, Repr

def separator : List Char := ", ".toList

def Row.line (row : Row) : Layout → List Char
  | .arrow =>
    if row.children = [] then row.parent
    else row.parent ++ " -> [ ".toList ++ separator.intercalate row.children ++ " ]".toList
  | .comma => separator.intercalate (row.parent :: row.children)

def Row.edges (row : Row) (destination : String) : List Edge :=
  row.children.map fun child => (parentLabel row.parent, childLabel destination child)

/-- A report: some lines, the marker, and a line for each row. -/
def report (preamble : List (List Char)) (rows : List Row) (layout : Layout) : String :=
  String.ofList ((preamble ++ marker :: rows.map (·.line layout)).flatMap (· ++ ['\n']))

end Multipath.Lattice
