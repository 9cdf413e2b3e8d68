import Multipath.LabelMap

/-! Interface topologies: what a report says about the network and what a target file says
about it are brought to one form, in which each interface label has the set of the labels
seen directly after it. A label may be listed with no successor at all; that makes no
edge, but it makes a different topology. -/
namespace Multipath

def sourceLabel : String := "start"

def destinationLabel : String := "end"

abbrev Edge := String × String

structure Topology where
  nodes : LabelMap LabelSet
  deriving DecidableEq, Repr

namespace Topology

def empty : Topology := ⟨∅⟩

instance : EmptyCollection Topology := ⟨empty⟩
instance : Inhabited Topology := ⟨empty⟩

def children? (t : Topology) (label : String) : Option LabelSet := t.nodes.get? label

def hasEdge (t : Topology) (parent child : String) : Bool :=
  (t.children? parent).any (·.contains child)

def addEdge (t : Topology) (parent child : String) : Topology :=
  ⟨t.nodes.insert parent (((t.children? parent).getD ∅).insert child)⟩

/-- Add an edge, and tell whether it was new. -/
def insert (t : Topology) (parent child : String) : Bool × Topology :=
  (!t.hasEdge parent child, t.addEdge parent child)

def addEdges (t : Topology) (edges : List Edge) : Topology :=
  edges.foldl (fun t edge => t.addEdge edge.1 edge.2) t

def ofEdges (edges : List Edge) : Topology := addEdges ∅ edges

def parents (t : Topology) : List String := t.nodes.keys

/-- The edges in order of the parent and then of the child. -/
def edges (t : Topology) : List Edge :=
  t.nodes.entries.flatMap fun (parent, children) => children.toList.map (parent, ·)

def edgeCount (t : Topology) : Nat :=
  t.nodes.entries.foldr (fun node count => node.2.size + count) 0

def branchPoints (t : Topology) : LabelMap LabelSet :=
  t.nodes.filter fun _ children => 1 < children.size

def isEmpty (t : Topology) : Bool := t.nodes.entries.isEmpty

/-- Every label that is listed has a child. -/
def Childbearing (t : Topology) : Prop := ∀ node ∈ t.nodes.entries, node.2.toList ≠ []

/-- The count of the edges is the length of their list. -/
theorem length_edges (t : Topology) : t.edges.length = t.edgeCount := by
  simp only [edges, edgeCount]
  induction t.nodes.entries with
  | nil => rfl
  | cons node rest ih => simp [LabelSet.size, ih]

end Topology
end Multipath
