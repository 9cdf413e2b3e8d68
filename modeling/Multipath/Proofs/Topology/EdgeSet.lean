import Mathlib.Data.Finset.Card
import Multipath.Proofs.Report.Json
import Multipath.Proofs.Topology

/-! Topologies that are built by insertion are finite sets of edges. No label is listed without a
child, whatever is inserted, so such a topology is known by its edges, and all that can be asked of
it, its written form included, depends on nothing but which edges were inserted. -/
namespace Multipath

theorem LabelSet.one_lt_size_iff {s : LabelSet} :
    1 < s.size ↔ ∃ one other, one ≠ other ∧ one ∈ s ∧ other ∈ s := by
  have card : s.toList.toFinset.card = s.size := List.toFinset_card_of_nodup s.ascending.nodup
  rw [← card, Finset.one_lt_card]
  simp only [List.mem_toFinset, ← mem_iff]
  constructor
  · rintro ⟨one, first, other, second, apart⟩
    exact ⟨one, other, apart, first, second⟩
  · rintro ⟨one, other, apart, first, second⟩
    exact ⟨one, first, other, second, apart⟩

theorem LabelMap.keys_ordered (m : LabelMap α) : m.keys.Pairwise (· < ·) :=
  List.pairwise_map.mpr m.ascending

namespace Topology

variable {t u : Topology} {label : String} {children : LabelSet}

theorem childbearing_iff :
    t.Childbearing ↔
      ∀ label children, t.children? label = some children → ∃ child, child ∈ children := by
  simp only [Childbearing, children?, LabelMap.get?_eq_some_iff]
  constructor
  · intro bears label children listed
    exact List.exists_mem_of_ne_nil _ (bears _ listed)
  · rintro bears ⟨label, children⟩ listed
    obtain ⟨child, member⟩ := bears label children listed
    exact List.ne_nil_of_mem member

theorem childbearing_empty : (∅ : Topology).Childbearing := nofun

theorem Childbearing.addEdge (bears : t.Childbearing) (parent child : String) :
    (t.addEdge parent child).Childbearing := by
  rw [childbearing_iff] at bears ⊢
  intro label children listed
  rw [children?_addEdge] at listed
  split at listed
  · obtain rfl := Option.some.inj listed
    exact ⟨child, by simp⟩
  · exact bears label children listed

theorem Childbearing.addEdges (bears : t.Childbearing) (edges : List Edge) :
    (t.addEdges edges).Childbearing := by
  induction edges generalizing t with
  | nil => exact bears
  | cons edge edges ih => exact ih (bears.addEdge edge.1 edge.2)

theorem childbearing_ofEdges (edges : List Edge) : (ofEdges edges).Childbearing :=
  childbearing_empty.addEdges edges

theorem hasEdge_of_children? (listed : t.children? label = some children) (child : String) :
    t.hasEdge label child = true ↔ child ∈ children := by
  simp [hasEdge_iff, listed]

namespace Childbearing

theorem children?_eq_none_iff (bears : t.Childbearing) (label : String) :
    t.children? label = none ↔ ∀ child, ¬t.hasEdge label child = true := by
  constructor
  · intro unlisted child
    simp [hasEdge_iff, unlisted]
  · intro edgeless
    cases listed : t.children? label with
    | none => rfl
    | some children =>
      obtain ⟨child, member⟩ := childbearing_iff.mp bears label children listed
      exact absurd ((hasEdge_of_children? listed child).mpr member) (edgeless child)

theorem children?_eq_some_iff (bears : t.Childbearing) (label : String) (children : LabelSet) :
    t.children? label = some children ↔
      (∃ child, t.hasEdge label child = true) ∧
        ∀ child, child ∈ children ↔ t.hasEdge label child = true := by
  constructor
  · intro listed
    obtain ⟨child, member⟩ := childbearing_iff.mp bears label children listed
    exact ⟨⟨child, (hasEdge_of_children? listed child).mpr member⟩,
      fun child => (hasEdge_of_children? listed child).symm⟩
  · rintro ⟨⟨child, edge⟩, members⟩
    obtain ⟨others, listed, -⟩ := hasEdge_iff.mp edge
    have equal : others = children := LabelSet.ext_iff_mem.mpr fun child =>
      (hasEdge_of_children? listed child).symm.trans (members child).symm
    rw [listed, equal]

theorem mem_parents_iff (bears : t.Childbearing) :
    label ∈ t.parents ↔ ∃ child, t.hasEdge label child = true := by
  rw [parents, LabelMap.mem_keys_iff]
  constructor
  · rintro ⟨children, listed⟩
    exact ((bears.children?_eq_some_iff label children).mp listed).1
  · rintro ⟨child, edge⟩
    obtain ⟨children, listed, -⟩ := hasEdge_iff.mp edge
    exact ⟨children, listed⟩

/-- Without labels that have no child, a topology is known by its edges. -/
theorem ext (bears : t.Childbearing) (others : u.Childbearing)
    (sameEdges : ∀ parent child, t.hasEdge parent child = true ↔ u.hasEdge parent child = true) :
    t = u := by
  have nodes : t.nodes = u.nodes := by
    refine LabelMap.ext_iff_get?.mpr fun label => Option.ext fun children => ?_
    have ofT := bears.children?_eq_some_iff label children
    have ofU := others.children?_eq_some_iff label children
    simp only [sameEdges] at ofT
    exact ofT.trans ofU.symm
  cases t; cases u
  simpa using nodes

end Childbearing

theorem mem_branchPoints_keys_iff :
    label ∈ t.branchPoints.keys ↔ ∃ one other, one ≠ other ∧
      t.hasEdge label one = true ∧ t.hasEdge label other = true := by
  rw [LabelMap.mem_keys_iff]
  simp only [mem_branchPoints_iff, LabelSet.one_lt_size_iff]
  constructor
  · rintro ⟨children, listed, one, other, apart, first, second⟩
    exact ⟨one, other, apart, (hasEdge_of_children? listed one).mpr first,
      (hasEdge_of_children? listed other).mpr second⟩
  · rintro ⟨one, other, apart, first, second⟩
    obtain ⟨children, listed, -⟩ := hasEdge_iff.mp first
    exact ⟨children, listed, one, other, apart, (hasEdge_of_children? listed one).mp first,
      (hasEdge_of_children? listed other).mp second⟩

theorem isEmpty_iff_parents : t.isEmpty = true ↔ t.parents = [] := by
  simp [isEmpty, parents, LabelMap.keys]

/-- Every question about a topology is answered as by a set of edges. -/
structure Represents (t : Topology) (edges : List Edge) : Prop where
  hasEdge : ∀ parent child, t.hasEdge parent child = true ↔ (parent, child) ∈ edges
  children : ∀ label children, t.children? label = some children ↔
    (∃ child, (label, child) ∈ edges) ∧ ∀ child, child ∈ children ↔ (label, child) ∈ edges
  childless : ∀ label, t.children? label = none ↔ ∀ child, (label, child) ∉ edges
  once : ∀ edge, t.edges.count edge = if edge ∈ edges then 1 else 0
  ordered : t.edges.Pairwise EdgeBefore
  counted : t.edgeCount = t.edges.length
  parents : ∀ label, label ∈ t.parents ↔ ∃ child, (label, child) ∈ edges
  parentsOrdered : t.parents.Pairwise (· < ·)
  branchPoints : ∀ label, label ∈ t.branchPoints.keys ↔
    ∃ one other, one ≠ other ∧ (label, one) ∈ edges ∧ (label, other) ∈ edges
  branches : ∀ label children,
    t.branchPoints.get? label = some children → t.children? label = some children
  branchesOrdered : t.branchPoints.keys.Pairwise (· < ·)
  empty : t.isEmpty = true ↔ edges = []

theorem represents_ofEdges (edges : List Edge) : (ofEdges edges).Represents edges where
  hasEdge _ _ := hasEdge_ofEdges
  children label children := by
    simpa using (childbearing_ofEdges edges).children?_eq_some_iff label children
  childless label := by
    simpa using (childbearing_ofEdges edges).children?_eq_none_iff label
  once edge := by
    rw [(nodup_edges _).count]
    simp only [mem_edges, hasEdge_ofEdges]
  ordered := edges_ordered _
  counted := (length_edges _).symm
  parents _ := mem_parents_ofEdges
  parentsOrdered := LabelMap.keys_ordered _
  branchPoints _ := by simp only [mem_branchPoints_keys_iff, hasEdge_ofEdges]
  branches _ _ found := (mem_branchPoints_iff.mp found).1
  branchesOrdered := LabelMap.keys_ordered _
  empty := by
    rw [isEmpty_iff_parents, List.eq_nil_iff_forall_not_mem, List.eq_nil_iff_forall_not_mem]
    simp only [mem_parents_ofEdges, not_exists, Prod.forall]

theorem ofEdges_eq_iff {edges others : List Edge} :
    ofEdges edges = ofEdges others ↔ ∀ edge, edge ∈ edges ↔ edge ∈ others := by
  constructor
  · rintro equal ⟨parent, child⟩
    rw [← hasEdge_ofEdges, equal, hasEdge_ofEdges]
  · intro sameEdges
    refine (childbearing_ofEdges edges).ext (childbearing_ofEdges others) fun parent child => ?_
    simp only [hasEdge_ofEdges]
    exact sameEdges (parent, child)

/-- The written form tells topologies apart, for it is read back. -/
theorem compact_inj : t.toJson.compact = u.toJson.compact ↔ t = u := by
  constructor
  · intro sameText
    have back := t.parse?_compact
    rw [sameText, u.parse?_compact] at back
    exact (Option.some.inj back).symm
  · exact congrArg fun t : Topology => t.toJson.compact

/-- Insert edges one after the other, and tell of each whether it was new. -/
def insertAll (t : Topology) : List Edge → List Bool × Topology
  | [] => ([], t)
  | edge :: edges =>
    let inserted := t.insert edge.1 edge.2
    let rest := inserted.2.insertAll edges
    (inserted.1 :: rest.1, rest.2)

theorem insertAll_ofEdges (before edges : List Edge) :
    (ofEdges before).insertAll edges =
      (edges.mapIdx fun index edge => decide (edge ∉ before ++ edges.take index),
        ofEdges (before ++ edges)) := by
  induction edges generalizing before with
  | nil => simp [insertAll]
  | cons edge edges ih =>
    have added : (ofEdges before).addEdge edge.1 edge.2 = ofEdges (before ++ [edge]) := by
      simp [ofEdges, addEdges]
    have new : (!(ofEdges before).hasEdge edge.1 edge.2) = decide (edge ∉ before) := by
      have known : (ofEdges before).hasEdge edge.1 edge.2 = true ↔ edge ∈ before := hasEdge_ofEdges
      by_cases member : edge ∈ before
      · simp [member, known.mpr member]
      · simp [member, mt known.mp member]
    simp only [insertAll, insert, added, ih (before ++ [edge]), new]
    simp [List.mapIdx_cons]

/-- After any insertions a topology answers as the set of the inserted edges. An insertion tells
that its edge is new if none before it inserted the same edge. Two topologies are equal, and are
written alike, if the same edges were inserted into them. -/
theorem insertAll_represents (edges : List Edge) :
    let built := (∅ : Topology).insertAll edges
    built.1 = edges.mapIdx (fun index edge => decide (edge ∉ edges.take index)) ∧
    built.2 = ofEdges edges ∧
    built.2.Represents edges ∧
    ∀ others : List Edge,
      let other := ((∅ : Topology).insertAll others).2
      (built.2 = other ↔ ∀ edge, edge ∈ edges ↔ edge ∈ others) ∧
      (built.2.toJson.compact = other.toJson.compact ↔ ∀ edge, edge ∈ edges ↔ edge ∈ others) := by
  have inserted (edges : List Edge) : (∅ : Topology).insertAll edges =
      (edges.mapIdx fun index edge => decide (edge ∉ edges.take index), ofEdges edges) :=
    insertAll_ofEdges [] edges
  simp only [inserted, compact_inj]
  exact ⟨trivial, trivial, represents_ofEdges edges, fun _ => ⟨ofEdges_eq_iff, ofEdges_eq_iff⟩⟩

end Topology
end Multipath
