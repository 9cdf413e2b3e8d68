import Multipath.LabelSet

/-! Finite maps whose keys are interface labels, each kept as the list of its entries in
ascending order of the keys. -/
namespace Multipath

structure LabelMap (α : Type u) where
  entries : List (String × α)
  ascending : Ascending Prod.fst entries
  deriving DecidableEq, Repr

namespace LabelMap

def empty : LabelMap α := ⟨[], .nil⟩

instance : EmptyCollection (LabelMap α) := ⟨empty⟩
instance : Inhabited (LabelMap α) := ⟨empty⟩

/-- Bind a key, instead of what it was bound to before. -/
def insert (m : LabelMap α) (key : String) (value : α) : LabelMap α :=
  ⟨Ascending.place Prod.fst (key, value) m.entries, Ascending.place_ascending m.ascending⟩

/-- The map of a list of bindings, of which the last one counts for each key. -/
def ofList (bindings : List (String × α)) : LabelMap α :=
  bindings.foldl (fun m binding => m.insert binding.1 binding.2) ∅

def get? (m : LabelMap α) (key : String) : Option α :=
  (m.entries.find? fun entry => entry.1 == key).map Prod.snd

def keys (m : LabelMap α) : List String := m.entries.map Prod.fst

def size (m : LabelMap α) : Nat := m.entries.length

def filter (keep : String → α → Bool) (m : LabelMap α) : LabelMap α :=
  ⟨m.entries.filter fun entry => keep entry.1 entry.2, m.ascending.filter _⟩

def map (f : String → α → β) (m : LabelMap α) : LabelMap β :=
  ⟨m.entries.map fun entry => (entry.1, f entry.1 entry.2), m.ascending.map fun _ => rfl⟩

@[simp] theorem keys_map (f : String → α → β) (m : LabelMap α) : (m.map f).keys = m.keys := by
  simp [keys, map, Function.comp_def]

end LabelMap
end Multipath
