import Mathlib.Data.Finset.SDiff
import Mathlib.Data.Finset.Dedup
import Multipath.Comparison
import Multipath.Proofs.Topology

/-! Comparisons as differences of edge sets. Each side of a comparison lists the edges that one
topology has and the other lacks, every edge once and under the mark of its side. -/
namespace Multipath.Comparison

variable {kind : Discrepancy.Kind} {holder other : Topology}

/-- The edges that are listed, without their marks. -/
theorem edges_unshared (kind : Discrepancy.Kind) (holder other : Topology) :
    (unshared kind holder other).map Discrepancy.edge =
      holder.edges.filter fun edge => !other.hasEdge edge.1 edge.2 := by
  rw [unshared, List.map_map]
  exact List.map_id _

theorem kind_of_mem_unshared {d : Discrepancy} (member : d ∈ unshared kind holder other) :
    d.kind = kind := by
  obtain ⟨_, -, rfl⟩ := List.mem_map.mp member
  rfl

theorem mem_edges_unshared {edge : Edge} :
    edge ∈ (unshared kind holder other).map Discrepancy.edge ↔
      holder.hasEdge edge.1 edge.2 = true ∧ ¬other.hasEdge edge.1 edge.2 = true := by
  rw [edges_unshared, List.mem_filter, Topology.mem_edges]
  simp

theorem nodup_edges_unshared (kind : Discrepancy.Kind) (holder other : Topology) :
    ((unshared kind holder other).map Discrepancy.edge).Nodup := by
  rw [edges_unshared]
  exact holder.nodup_edges.filter _

theorem toFinset_edges_unshared (kind : Discrepancy.Kind) (held others : List Edge) :
    ((unshared kind (.ofEdges held) (.ofEdges others)).map Discrepancy.edge).toFinset =
      held.toFinset \ others.toFinset := by
  ext edge
  rw [List.mem_toFinset, mem_edges_unshared]
  simp

theorem unshared_eq_nil_iff :
    unshared kind holder other = [] ↔
      ∀ p c, holder.hasEdge p c = true → other.hasEdge p c = true := by
  rw [← List.map_eq_nil_iff (f := Discrepancy.edge), List.eq_nil_iff_forall_not_mem]
  simp only [mem_edges_unshared]
  constructor
  · intro nothing p c held
    by_contra lacking
    exact nothing (p, c) ⟨held, lacking⟩
  · rintro shared edge ⟨held, lacking⟩
    exact lacking (shared _ _ held)

/-- Two topologies share as many edges, whichever of them is searched for those of the other. -/
theorem countP_hasEdge_comm (t u : Topology) :
    (t.edges.countP fun edge => u.hasEdge edge.1 edge.2) =
      u.edges.countP fun edge => t.hasEdge edge.1 edge.2 := by
  rw [List.countP_eq_length_filter, List.countP_eq_length_filter]
  apply List.Perm.length_eq
  apply (List.perm_ext_iff_of_nodup (t.nodup_edges.filter _) (u.nodup_edges.filter _)).mpr
  intro edge
  simp only [List.mem_filter, Topology.mem_edges]
  exact And.comm

/-- The edges of a topology are those that are shared and those that are not. -/
theorem shared_add_unshared (kind : Discrepancy.Kind) (holder other : Topology) :
    (holder.edges.countP fun edge => other.hasEdge edge.1 edge.2) +
      (unshared kind holder other).length = holder.edgeCount := by
  have counted := holder.edges.length_eq_countP_add_countP fun edge => other.hasEdge edge.1 edge.2
  simp only [Bool.not_eq_true, Bool.decide_eq_false] at counted
  rw [unshared, List.length_map, ← List.countP_eq_length_filter, ← holder.length_edges, counted]

/-- What a run discovered and missed is what is there and what it made up. -/
theorem edgeCount_add_missing (discovered actual : Topology) :
    discovered.edgeCount + (between discovered actual).missing.length =
      actual.edgeCount + (between discovered actual).spurious.length := by
  have found := shared_add_unshared .spurious discovered actual
  have real := shared_add_unshared .missing actual discovered
  rw [countP_hasEdge_comm] at found
  simp only [between]
  omega

theorem verdict_eq_pass_iff {c : Comparison} :
    c.verdict = .pass ↔ c.missing = [] ∧ c.spurious = [] := by
  unfold verdict isEmpty
  split <;> simp_all

/-- A run passes if the two topologies have the same edges. -/
theorem verdict_between_eq_pass_iff {discovered actual : Topology} :
    (between discovered actual).verdict = .pass ↔
      ∀ p c, discovered.hasEdge p c = true ↔ actual.hasEdge p c = true := by
  rw [verdict_eq_pass_iff, between, unshared_eq_nil_iff, unshared_eq_nil_iff]
  constructor
  · rintro ⟨found, real⟩ p c
    exact ⟨real p c, found p c⟩
  · intro agree
    exact ⟨fun p c => (agree p c).mpr, fun p c => (agree p c).mp⟩

end Multipath.Comparison
