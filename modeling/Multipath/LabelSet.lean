import Multipath.Ascending

/-! Finite sets of interface labels, each kept as the ascending list of its members. -/
namespace Multipath

structure LabelSet where
  toList : List String
  ascending : Ascending id toList
  deriving DecidableEq, Repr

namespace LabelSet

def empty : LabelSet := ⟨[], .nil⟩

instance : EmptyCollection LabelSet := ⟨empty⟩
instance : Inhabited LabelSet := ⟨empty⟩

def insert (s : LabelSet) (label : String) : LabelSet :=
  ⟨Ascending.place id label s.toList, Ascending.place_ascending s.ascending⟩

/-- The set of the labels of a list, in whatever order and however often they occur. -/
def ofList (labels : List String) : LabelSet := labels.foldl insert ∅

def contains (s : LabelSet) (label : String) : Bool := s.toList.contains label

def size (s : LabelSet) : Nat := s.toList.length

def sharedSize (s t : LabelSet) : Nat := s.toList.countP t.contains

instance : Membership String LabelSet := ⟨fun s label => label ∈ s.toList⟩

theorem mem_iff {s : LabelSet} {label : String} : label ∈ s ↔ label ∈ s.toList := Iff.rfl

@[simp] theorem contains_iff {s : LabelSet} {label : String} :
    s.contains label = true ↔ label ∈ s := by
  simp [contains, mem_iff]

theorem sharedSize_le_left (s t : LabelSet) : s.sharedSize t ≤ s.size := List.countP_le_length

end LabelSet
end Multipath
