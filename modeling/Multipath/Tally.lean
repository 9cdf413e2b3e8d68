import Multipath.Binary64
import Multipath.Text.Numeral
import Multipath.Topology

/-! Discovery counts. For each branch point of the ground truth a tally says how many runs
found exactly `k` of its children, for every `k`. -/
namespace Multipath

/-- A counter can count one more. Counters have sixty-four bits. -/
def hasRoom (counter : Nat) : Bool := counter < Text.largestWord

structure Tally where
  /-- The children of the branch point in the ground truth. -/
  expected : LabelSet
  /-- At index `k`, how many runs found `k` of the expected children. -/
  counts : List Nat
  deriving DecidableEq, Repr

namespace Tally

def start (expected : LabelSet) : Tally := ⟨expected, List.replicate (expected.size + 1) 0⟩

/-- There is a counter for every possible number of children. -/
def WellFormed (t : Tally) : Prop := t.counts.length = t.expected.size + 1

instance (t : Tally) : Decidable t.WellFormed := inferInstanceAs (Decidable (_ = _))

/-- How many of the expected children were seen. A branch point that was not reached shows
none of them, and children that are not expected do not count. -/
def slot (t : Tally) : Option LabelSet → Nat
  | some seen => seen.sharedSize t.expected
  | none => 0

/-- There is a counter for what was seen, and it has room. A tally read from outside may
lack it, or have it full. -/
def accepts (t : Tally) (seen : Option LabelSet) : Bool := t.counts[t.slot seen]?.any hasRoom

def record (t : Tally) (seen : Option LabelSet) : Tally :=
  { t with counts := t.counts.modify (t.slot seen) (· + 1) }

def total (t : Tally) : Nat := t.counts.foldr (· + ·) 0

/-- The runs counted so far are themselves a number of sixty-four bits. -/
def isSummable (t : Tally) : Bool := t.total ≤ Text.largestWord

def frequency? (t : Tally) (k : Nat) : Option Fraction :=
  t.counts[k]?.bind fun count => Fraction.of? count t.total

end Tally

abbrev Tallies := LabelMap Tally

namespace Tallies

def start (actual : Topology) : Tallies :=
  actual.branchPoints.map fun _ children => .start children

def accepts (t : Tallies) (discovered : Topology) : Bool :=
  t.entries.all fun (branch, tally) => tally.accepts (discovered.children? branch)

def record (t : Tallies) (discovered : Topology) : Tallies :=
  t.map fun branch tally => tally.record (discovered.children? branch)

/-- Count one run at the branch points before the first one whose tally refuses what was
seen. -/
def recordUntilRefused (t : Tallies) (discovered : Topology) : Tallies :=
  let counted := t.entries.takeWhile fun (branch, tally) =>
    tally.accepts (discovered.children? branch)
  t.map fun branch tally =>
    if counted.any (·.1 == branch) then tally.record (discovered.children? branch) else tally

end Tallies
end Multipath
