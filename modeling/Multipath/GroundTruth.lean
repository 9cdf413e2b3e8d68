import Multipath.Topology
import Multipath.Text.Blank

/-! Target files. A target file describes the simulated network behind a destination: a
header line, then a line for each edge that names the parent and the child. -/
namespace Multipath.GroundTruth

/-- The edge that a line describes. A line of fewer than two words describes none, and
further words are remarks. -/
def edge? (line : List Char) : Option Edge :=
  match Text.words line with
  | parent :: child :: _ => some (String.ofList parent, String.ofList child)
  | _ => none

def parse (text : String) : Topology :=
  .ofEdges (((Text.lines text.toList).drop 1).filterMap edge?)

def render (header : String) (edges : List Edge) : String :=
  String.join ((header ++ "\n") :: edges.map fun edge => edge.1 ++ " " ++ edge.2 ++ "\n")

end Multipath.GroundTruth
