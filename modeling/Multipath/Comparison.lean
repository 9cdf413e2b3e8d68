import Multipath.Topology

/-! The comparison of a discovered topology with the ground truth: the edges that each of
the two has and the other lacks. A run passes if there are none. -/
namespace Multipath

/-- The verdict on one repetition. A dropped run has nothing to compare. -/
inductive Verdict where
  | pass
  | fail
  | dropped
  deriving DecidableEq, Repr

def Verdict.text : Verdict → String
  | .pass => "pass"
  | .fail => "fail"
  | .dropped => "dropped"

/-- On which side of a comparison an edge is absent. -/
inductive Discrepancy.Kind where
  /-- It is in the ground truth and was not discovered. -/
  | missing
  /-- It was discovered and is not in the ground truth. -/
  | spurious
  deriving DecidableEq, Repr

namespace Discrepancy.Kind

def tag : Discrepancy.Kind → String
  | .missing => "MISSING"
  | .spurious => "SPURIOUS"

def rank : Discrepancy.Kind → Nat
  | .missing => 0
  | .spurious => 1

end Discrepancy.Kind

/-- An edge that one side alone has. -/
structure Discrepancy where
  kind : Discrepancy.Kind
  parent : String
  child : String
  deriving DecidableEq, Repr

namespace Discrepancy

def edge (d : Discrepancy) : Edge := (d.parent, d.child)

def text (d : Discrepancy) : String := "[" ++ d.kind.tag ++ "] " ++ d.parent ++ " -> " ++ d.child

theorem text_eq (d : Discrepancy) :
    d.text = "[" ++ (if d.kind = .missing then "MISSING" else "SPURIOUS") ++ "] " ++ d.parent ++
      " -> " ++ d.child := by
  obtain ⟨kind, parent, child⟩ := d
  cases kind <;> rfl

/-- The order of differences: missing edges first, then by parent, then by child. -/
def Before (a b : Discrepancy) : Prop :=
  a.kind.rank < b.kind.rank ∨ a.kind = b.kind ∧
    (a.parent < b.parent ∨ a.parent = b.parent ∧ a.child < b.child)

instance : LT Discrepancy := ⟨Before⟩
instance (a b : Discrepancy) : Decidable (a < b) :=
  inferInstanceAs (Decidable (_ ∨ _ ∧ (_ ∨ _ ∧ _)))

end Discrepancy

structure Comparison where
  missing : List Discrepancy
  spurious : List Discrepancy
  deriving DecidableEq, Repr

namespace Comparison

def isEmpty (c : Comparison) : Bool := c.missing.isEmpty && c.spurious.isEmpty

def size (c : Comparison) : Nat := c.missing.length + c.spurious.length

def verdict (c : Comparison) : Verdict := if c.isEmpty then .pass else .fail

/-- All differences, the missing edges before the spurious ones. -/
def toList (c : Comparison) : List Discrepancy := c.missing ++ c.spurious

def unshared (kind : Discrepancy.Kind) (holder other : Topology) : List Discrepancy :=
  (holder.edges.filter fun edge => !other.hasEdge edge.1 edge.2).map
    fun edge => ⟨kind, edge.1, edge.2⟩

def between (discovered actual : Topology) : Comparison :=
  ⟨unshared .missing actual discovered, unshared .spurious discovered actual⟩

@[simp] theorem length_toList (c : Comparison) : c.toList.length = c.size := List.length_append

theorem verdict_ne_dropped (c : Comparison) : c.verdict ≠ .dropped := by
  unfold verdict; split <;> decide

end Comparison
end Multipath
