import Multipath.Proofs.Labels
import Multipath.Topology

/-! Topologies as sets of edges. A topology that is built edge by edge has the edges that were
added, in whatever order and however often, and its list of edges goes through each of them
once, by parent and then by child. -/
namespace Multipath.Topology

variable {t : Topology}

def EdgeBefore (a b : Edge) : Prop := a.1 < b.1 ∨ a.1 = b.1 ∧ a.2 < b.2

theorem hasEdge_iff {parent child : String} :
    t.hasEdge parent child = true ↔
      ∃ children, t.children? parent = some children ∧ child ∈ children := by
  rw [hasEdge, Option.any_eq_true]
  simp

@[simp] theorem hasEdge_empty (parent child : String) :
    (∅ : Topology).hasEdge parent child = false := rfl

theorem children?_addEdge (t : Topology) (parent child label : String) :
    (t.addEdge parent child).children? label =
      if label = parent then some (((t.children? parent).getD ∅).insert child)
      else t.children? label :=
  t.nodes.get?_insert ..

theorem hasEdge_addEdge {parent child p c : String} :
    (t.addEdge parent child).hasEdge p c = true ↔
      (p, c) = (parent, child) ∨ t.hasEdge p c = true := by
  rw [hasEdge_iff, hasEdge_iff, children?_addEdge]
  by_cases isParent : p = parent
  · subst p
    cases t.children? parent <;> simp [eq_comm]
  · simp [isParent]

theorem hasEdge_addEdges {edges : List Edge} {p c : String} :
    (t.addEdges edges).hasEdge p c = true ↔ (p, c) ∈ edges ∨ t.hasEdge p c = true := by
  induction edges generalizing t with
  | nil => simp [addEdges]
  | cons edge edges ih =>
    have step : t.addEdges (edge :: edges) = (t.addEdge edge.1 edge.2).addEdges edges := rfl
    rw [step, ih, hasEdge_addEdge, List.mem_cons]
    tauto

@[simp] theorem hasEdge_ofEdges {edges : List Edge} {p c : String} :
    (ofEdges edges).hasEdge p c = true ↔ (p, c) ∈ edges := by
  simp [ofEdges, hasEdge_addEdges]

theorem mem_parents_addEdge {parent child label : String} :
    label ∈ (t.addEdge parent child).parents ↔ label = parent ∨ label ∈ t.parents := by
  simp only [parents, addEdge, LabelMap.mem_keys_iff, LabelMap.get?_insert]
  by_cases isParent : label = parent <;> simp [isParent]

theorem mem_parents_addEdges {edges : List Edge} {label : String} :
    label ∈ (t.addEdges edges).parents ↔ (∃ child, (label, child) ∈ edges) ∨ label ∈ t.parents := by
  induction edges generalizing t with
  | nil => simp [addEdges]
  | cons edge edges ih =>
    have step : t.addEdges (edge :: edges) = (t.addEdge edge.1 edge.2).addEdges edges := rfl
    obtain ⟨parent, child⟩ := edge
    rw [step, ih, mem_parents_addEdge]
    simp only [List.mem_cons, Prod.mk.injEq, exists_or, exists_and_left, exists_eq, and_true]
    tauto

/-- A label is listed only for the edges that it has. -/
@[simp] theorem mem_parents_ofEdges {edges : List Edge} {label : String} :
    label ∈ (ofEdges edges).parents ↔ ∃ child, (label, child) ∈ edges := by
  have unlisted : label ∉ (∅ : Topology).parents := List.not_mem_nil
  simp [ofEdges, mem_parents_addEdges, unlisted]

theorem mem_edges {edge : Edge} : edge ∈ t.edges ↔ t.hasEdge edge.1 edge.2 = true := by
  obtain ⟨parent, child⟩ := edge
  rw [hasEdge_iff, edges, List.mem_flatMap]
  simp only [children?, LabelMap.get?_eq_some_iff, List.mem_map, Prod.mk.injEq]
  constructor
  · rintro ⟨⟨label, children⟩, listed, child, member, rfl, rfl⟩
    exact ⟨children, listed, member⟩
  · rintro ⟨children, listed, member⟩
    exact ⟨(parent, children), listed, child, member, rfl, rfl⟩

theorem mem_branchPoints_iff {branch : String} {children : LabelSet} :
    t.branchPoints.get? branch = some children ↔
      t.children? branch = some children ∧ 1 < children.size := by
  simp [branchPoints, children?, LabelMap.get?_filter, Option.filter_eq_some_iff]

theorem edges_ordered (t : Topology) : t.edges.Pairwise EdgeBefore := by
  refine List.pairwise_flatMap.mpr ⟨fun node _ => ?_, t.nodes.ascending.imp fun lt => ?_⟩
  · exact List.pairwise_map.mpr (node.2.ascending.imp fun lt => .inr ⟨rfl, lt⟩)
  · intro a ha b hb
    obtain ⟨_, -, rfl⟩ := List.mem_map.mp ha
    obtain ⟨_, -, rfl⟩ := List.mem_map.mp hb
    exact .inl lt

theorem nodup_edges (t : Topology) : t.edges.Nodup := by
  refine List.nodup_iff_pairwise_ne.mpr (t.edges_ordered.imp ?_)
  rintro a b before rfl
  rcases before with lt | ⟨-, lt⟩
  · exact String.lt_irrefl _ lt
  · exact String.lt_irrefl _ lt

end Multipath.Topology
