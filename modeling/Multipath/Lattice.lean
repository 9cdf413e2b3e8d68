import Multipath.Topology
import Multipath.Text.Blank
import Multipath.Text.Numeral
import Multipath.Text.Quoted

/-! The lattice block of a prober report. A line that holds the marker alone opens the
block; each line up to the next blank one is a record, which names an interface and the
interfaces found directly after it, in either of two layouts:

    None -> [ 10.0.0.1, 10.0.0.2 ]
    None, 10.0.0.1, 10.0.0.2

An interface with no successor stands on a line of its own and adds no edge. -/
namespace Multipath

inductive Lattice.Error where
  | markerNotFound
  | malformedRecord (line : Nat) (content : String)
  deriving DecidableEq, Repr

def Lattice.Error.message : Lattice.Error → String
  | .markerNotFound => "no \x60Lattice:\x60 marker found in prober output"
  | .malformedRecord line content =>
    "malformed lattice record at line " ++ String.ofList (Text.decimal line) ++ ": " ++
      String.ofList (Text.quoted content.toList)

namespace Lattice

def marker : List Char := "Lattice:".toList

/-- What the prober writes for the source of the trace. -/
def originToken : List Char := "None".toList

def arrow : List Char := "->".toList

/-- Punctuation that may surround a label in a record. -/
def isSeparator (c : Char) : Bool := c = ',' || c = '[' || c = ']'

/-- The tokens of a record: its words without the punctuation around them. A word that is
all punctuation is no token. -/
def tokens (line : List Char) : List (List Char) :=
  ((Text.words line).map (Text.strip isSeparator)).filter fun token => !token.isEmpty

/-- An interface and its successors, under the labels of the topology. -/
structure Record where
  parent : String
  children : List String
  deriving DecidableEq, Repr

def Record.edges (r : Record) : List Edge := r.children.map (r.parent, ·)

def parentLabel (token : List Char) : String :=
  if token = originToken then sourceLabel else String.ofList token

def childLabel (destination : String) (token : List Char) : String :=
  if token = destination.toList then destinationLabel else String.ofList token

/-- Read the tokens of a record. The parent comes first; at most one arrow follows at any
place, and then there must be a child. -/
def Record.ofTokens? (destination : String) : List (List Char) → Option Record
  | [] => none
  | parent :: rest =>
    let children := rest.filter (· ≠ arrow)
    if parent = arrow ∨ 1 < rest.count arrow ∨ (arrow ∈ rest ∧ children = []) then none
    else some ⟨parentLabel parent, children.map (childLabel destination)⟩

/-- The block of the report, as numbered and trimmed lines: what lies between the first
marker and the next blank line. There is none without a marker. -/
def block? (report : List Char) : Option (List (Nat × List Char)) :=
  let numbered := (Text.lines report).zipIdx.map fun (line, index) => (index + 1, Text.trim line)
  match numbered.dropWhile fun line => line.2 ≠ marker with
  | [] => none
  | _ :: after => some (after.takeWhile fun line => line.2 ≠ [])

/-- Read the records of a block, up to the first that is malformed. -/
def readRecords (destination : String) :
    List (Nat × List Char) → Except Lattice.Error (List Record)
  | [] => .ok []
  | (number, line) :: rest =>
    match Record.ofTokens? destination (tokens line) with
    | none => .error (.malformedRecord number (String.ofList line))
    | some record => (readRecords destination rest).map (record :: ·)

def parse (report destination : String) : Except Lattice.Error Topology :=
  match block? report.toList with
  | none => .error .markerNotFound
  | some block =>
    (readRecords destination block).map fun records =>
      Topology.ofEdges (records.flatMap Record.edges)

end Lattice
end Multipath
