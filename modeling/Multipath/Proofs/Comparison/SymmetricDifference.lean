import Multipath.Proofs.Comparison
import Multipath.Proofs.Lattice.Labels
import Multipath.GroundTruth

/-! The comparison as the symmetric difference of two edge sets. It lists every edge that one
topology alone has, once and in order; it mends the one topology into the other; and it turns
around when the two change places. -/
namespace Multipath

namespace Discrepancy

def Kind.flip : Kind → Kind
  | .missing => .spurious
  | .spurious => .missing

def flip (d : Discrepancy) : Discrepancy := { d with kind := d.kind.flip }

end Discrepancy

namespace Comparison

def flip (c : Comparison) : Comparison :=
  ⟨c.spurious.map Discrepancy.flip, c.missing.map Discrepancy.flip⟩

/-- Take the spurious edges away, and add the missing ones. -/
def mend (c : Comparison) (edges : List Edge) : List Edge :=
  (edges.filter fun edge => edge ∉ c.spurious.map Discrepancy.edge) ++
    c.missing.map Discrepancy.edge

variable {kind : Discrepancy.Kind} {holder other discovered actual : Topology}
  {d : Discrepancy}

theorem mem_unshared : d ∈ unshared kind holder other ↔
    d.kind = kind ∧ holder.hasEdge d.parent d.child = true ∧
      ¬other.hasEdge d.parent d.child = true := by
  simp only [unshared, List.mem_map, List.mem_filter, Topology.mem_edges, Bool.not_eq_true',
    Bool.not_eq_true]
  constructor
  · rintro ⟨edge, ⟨held, lacking⟩, rfl⟩
    exact ⟨rfl, held, lacking⟩
  · rintro ⟨rfl, held, lacking⟩
    exact ⟨d.edge, ⟨held, lacking⟩, rfl⟩

theorem unshared_ordered (kind : Discrepancy.Kind) (holder other : Topology) :
    (unshared kind holder other).Pairwise (· < ·) := by
  apply List.pairwise_map.mpr
  apply (holder.edges_ordered.filter _).imp
  intro a b before
  exact .inr ⟨rfl, before⟩

/-- All differences stand in order. -/
theorem toList_between_ordered (discovered actual : Topology) :
    (between discovered actual).toList.Pairwise (· < ·) := by
  refine List.pairwise_append.mpr ⟨unshared_ordered .., unshared_ordered .., ?_⟩
  intro a missing b spurious
  left
  rw [kind_of_mem_unshared missing, kind_of_mem_unshared spurious]
  decide

/-- No edge is found on both sides. -/
theorem edge_ne_of_mem {e : Discrepancy} (missing : d ∈ (between discovered actual).missing)
    (spurious : e ∈ (between discovered actual).spurious) : d.edge ≠ e.edge := by
  intro sameEdge
  obtain ⟨sameParent, sameChild⟩ := Prod.mk.inj sameEdge
  have held := (mem_unshared.mp missing).2.1
  have lacking := (mem_unshared.mp spurious).2.2
  rw [sameParent, sameChild] at held
  exact lacking held

theorem mend_between_perm (discovered actual : Topology) :
    ((between discovered actual).mend discovered.edges).Perm actual.edges := by
  -- Neither list has an edge twice, so it is enough that they have the same members.
  have nodup : ((between discovered actual).mend discovered.edges).Nodup := by
    refine List.nodup_append.mpr ⟨discovered.nodup_edges.filter _, nodup_edges_unshared .., ?_⟩
    intro edge kept added missing sameEdge
    subst sameEdge
    have held := (List.mem_filter.mp kept).1
    rw [Topology.mem_edges] at held
    exact (mem_edges_unshared.mp missing).2 held
  refine (List.perm_ext_iff_of_nodup nodup actual.nodup_edges).mpr fun edge => ?_
  simp only [mend, between, List.mem_append, List.mem_filter, decide_eq_true_eq,
    mem_edges_unshared, Topology.mem_edges]
  by_cases found : discovered.hasEdge edge.1 edge.2 = true <;>
    by_cases real : actual.hasEdge edge.1 edge.2 = true <;> simp [found, real]

theorem unshared_flip (kind : Discrepancy.Kind) (holder other : Topology) :
    unshared kind.flip holder other = (unshared kind holder other).map Discrepancy.flip := by
  rw [unshared, unshared, List.map_map]
  rfl

theorem between_flip (discovered actual : Topology) :
    between actual discovered = (between discovered actual).flip := by
  have missing := unshared_flip .spurious discovered actual
  have spurious := unshared_flip .missing actual discovered
  exact congrArg₂ Comparison.mk missing spurious

/-- Without labels that have no child, only a topology itself has no difference to it. -/
theorem verdict_between_eq_pass_iff_eq (bears : discovered.Childbearing)
    (others : actual.Childbearing) :
    (between discovered actual).verdict = .pass ↔ discovered = actual := by
  rw [verdict_between_eq_pass_iff]
  constructor
  · exact bears.ext others
  · rintro rfl p c
    rfl

theorem isEmpty_iff_verdict {c : Comparison} : c.isEmpty = true ↔ c.verdict = .pass := by
  unfold verdict
  split <;> simp_all

/-- A comparison is the symmetric difference of the two edge sets, in order, each edge once and
under the mark of its side. It says how to mend the discovered topology, and it turns around with
the two topologies. Where no label stands without a child, as in all that is built from edges or
read from a report or a target file, there is no difference but between different topologies. -/
theorem between_symmetricDifference (discovered actual : Topology) :
    let c := between discovered actual
    (∀ d, d ∈ c.missing ↔ d.kind = .missing ∧ actual.hasEdge d.parent d.child = true ∧
      ¬discovered.hasEdge d.parent d.child = true) ∧
    (∀ d, d ∈ c.spurious ↔ d.kind = .spurious ∧ discovered.hasEdge d.parent d.child = true ∧
      ¬actual.hasEdge d.parent d.child = true) ∧
    c.toList.Pairwise (· < ·) ∧
    (∀ d ∈ c.missing, ∀ e ∈ c.spurious, d.edge ≠ e.edge) ∧
    (c.mend discovered.edges).Perm actual.edges ∧
    discovered.edgeCount + c.missing.length = actual.edgeCount + c.spurious.length ∧
    between actual discovered = c.flip ∧
    (discovered.Childbearing → actual.Childbearing →
      (c.isEmpty = true ↔ discovered = actual) ∧ (c.verdict = .pass ↔ discovered = actual)) ∧
    (∀ edges, (Topology.ofEdges edges).Childbearing) ∧
    (∀ report destination t, Lattice.parse report destination = .ok t → t.Childbearing) ∧
    ∀ text, (GroundTruth.parse text).Childbearing := by
  refine ⟨fun d => mem_unshared, fun d => mem_unshared, toList_between_ordered .., ?_,
    mend_between_perm .., edgeCount_add_missing .., between_flip .., ?_,
    Topology.childbearing_ofEdges, ?_, fun text => Topology.childbearing_ofEdges _⟩
  · intro d missing e spurious
    exact edge_ne_of_mem missing spurious
  · intro bears others
    have passes := verdict_between_eq_pass_iff_eq bears others
    exact ⟨isEmpty_iff_verdict.trans passes, passes⟩
  · intro report destination t read
    exact Lattice.childbearing_of_parse read

/-- One branch of a diamond is listed under another label, so that an edge is missing and another is
spurious. The topologies differ although they have as many edges. -/
theorem between_symmetricDifference_relabelled :
    let discovered := Topology.ofEdges [("start", "b"), ("start", "a"), ("a", "end"), ("c", "end")]
    let actual := Topology.ofEdges [("start", "a"), ("start", "b"), ("a", "end"), ("b", "end")]
    discovered.Childbearing ∧ actual.Childbearing ∧
      (between discovered actual).verdict ≠ .pass ∧
      between actual discovered = ⟨[⟨.missing, "c", "end"⟩], [⟨.spurious, "b", "end"⟩]⟩ := by
  intro discovered actual
  obtain ⟨-, -, -, -, -, -, turned, equal, bears, -⟩ :=
    between_symmetricDifference discovered actual
  refine ⟨bears _, bears _, fun pass => ?_, turned.trans (by decide)⟩
  have equalMaps := (equal (bears _) (bears _)).2.mp pass
  exact absurd equalMaps (by decide)

-- A label without a child makes a topology that differs from another one in no edge.
example : (between ⟨LabelMap.ofList [("a", ∅)]⟩ ∅).verdict = .pass := rfl

end Comparison
end Multipath
