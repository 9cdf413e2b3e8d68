import Multipath.Proofs.Comparison
import Multipath.Proofs.GroundTruth
import Multipath.Proofs.Lattice.Layout

/-! From written texts to a verdict. A lattice that was printed for some edges and a target file
that was written for some others are read, relabelled and compared; the comparison is that of the
two edge sets, whichever layout, order and grouping they were written in. -/
namespace Multipath

namespace Lattice

def printedParent (label : String) : List Char :=
  if label = sourceLabel then originToken else label.toList

def printedChild (destination label : String) : List Char :=
  if label = destinationLabel then destination.toList else label.toList

/-- The row that is printed for a record in a report about a destination. -/
def Record.printed (r : Record) (destination : String) : Row :=
  ⟨printedParent r.parent, r.children.map (printedChild destination)⟩

theorem parentLabel_printedParent {label : String} (notOrigin : label ≠ "None") :
    parentLabel (printedParent label) = label := by
  unfold printedParent
  split
  · rename_i source
    rw [source]
    rfl
  · have apart : label.toList ≠ originToken := fun isOrigin =>
      notOrigin (String.toList_injective isOrigin)
    rw [parentLabel, if_neg apart, String.ofList_toList]

theorem childLabel_printedChild {destination label : String}
    (other : label = destination → destination = "end") :
    childLabel destination (printedChild destination label) = label := by
  unfold printedChild
  split
  · rename_i last
    rw [childLabel, if_pos rfl, last]
  · rename_i inner
    have apart : label.toList ≠ destination.toList := by
      intro isEnd
      have eq := String.toList_injective isEnd
      exact inner (eq.trans (other eq))
    rw [childLabel, if_neg apart, String.ofList_toList]

theorem Record.isPlain_printed {r : Record} {destination : String}
    (parent : IsPlain r.parent.toList) (children : ∀ child ∈ r.children, IsPlain child.toList)
    (plain : IsPlain destination.toList) : (r.printed destination).IsPlain where
  parent := by
    unfold printed printedParent
    split
    · show IsPlain originToken
      decide
    · exact parent
  children := by
    intro token member
    obtain ⟨child, listed, rfl⟩ := List.mem_map.mp member
    unfold printedChild
    split
    · exact plain
    · exact children child listed

/-- The edges of a record are read from its row, if no label is taken for another. -/
theorem Record.edges_printed {r : Record} {destination : String}
    (parent : ∀ edge ∈ r.edges, edge.1 ≠ "None")
    (child : ∀ edge ∈ r.edges, edge.2 = destination → destination = "end") :
    (r.printed destination).edges destination = r.edges := by
  rw [Row.edges, printed, List.map_map]
  refine List.map_congr_left fun label listed => ?_
  have member : (r.parent, label) ∈ r.edges := List.mem_map_of_mem listed
  simp [parentLabel_printedParent (parent _ member), childLabel_printedChild (child _ member)]

def IsPlainEdge (edge : Edge) : Prop := IsPlain edge.1.toList ∧ IsPlain edge.2.toList

instance : DecidablePred IsPlainEdge := fun _ => inferInstanceAs (Decidable (_ ∧ _))

/-- A lattice that was printed for some records is read as their edges. -/
theorem parse_printed {records : List Record} {destination : String}
    (plain : ∀ edge ∈ records.flatMap Record.edges, IsPlainEdge edge)
    (leaves : ∀ r ∈ records, r.children = [] → IsPlain r.parent.toList)
    (plainDestination : IsPlain destination.toList)
    (parents : ∀ edge ∈ records.flatMap Record.edges, edge.1 ≠ "None")
    (children : ∀ edge ∈ records.flatMap Record.edges, edge.2 = destination → destination = "end")
    (layout : Layout) :
    parse (report [] (records.map (·.printed destination)) layout) destination =
      .ok (.ofEdges (records.flatMap Record.edges)) := by
  have ofRecord (r : Record) (listed : r ∈ records) (edge : Edge) (member : edge ∈ r.edges) :
      edge ∈ records.flatMap Record.edges := List.mem_flatMap.mpr ⟨r, listed, member⟩
  have rows : ∀ row ∈ records.map (·.printed destination), row.IsPlain := by
    intro row member
    obtain ⟨r, listed, rfl⟩ := List.mem_map.mp member
    have labels : ∀ child ∈ r.children, IsPlainEdge (r.parent, child) := fun child among =>
      plain _ (ofRecord r listed _ (List.mem_map_of_mem among))
    -- The parent of a record is the parent of its edges, if it has any.
    have parent : IsPlain r.parent.toList := by
      by_cases leaf : r.children = []
      · exact leaves r listed leaf
      · obtain ⟨child, among⟩ := List.exists_mem_of_ne_nil _ leaf
        exact (labels child among).1
    exact Record.isPlain_printed parent (fun child among => (labels child among).2) plainDestination
  have read : (records.map (·.printed destination)).flatMap (·.edges destination) =
      records.flatMap Record.edges := by
    rw [List.flatMap_map]
    refine List.flatMap_congr fun r listed => Record.edges_printed ?_ ?_
    · exact fun edge member => parents edge (ofRecord r listed edge member)
    · exact fun edge member => children edge (ofRecord r listed edge member)
  rw [parse_report (by simp) (by simp) rows, read]

end Lattice

namespace Comparison

open Multipath.Lattice

/-- The comparison of two topologies that were built from lists of edges. -/
theorem between_ofEdges (found real : List Edge) :
    let c := between (.ofEdges found) (.ofEdges real)
    (c.verdict = .pass ↔ found.toFinset = real.toFinset) ∧
    (c.missing.map Discrepancy.edge).toFinset = real.toFinset \ found.toFinset ∧
    (c.spurious.map Discrepancy.edge).toFinset = found.toFinset \ real.toFinset := by
  intro c
  refine ⟨?_, toFinset_edges_unshared .., toFinset_edges_unshared ..⟩
  rw [verdict_between_eq_pass_iff, Finset.ext_iff]
  simp

/-- A printed lattice is read, and its comparison with a written target file is that of the edges
which they were printed and written for. -/
theorem between_written (D A : Finset Edge) (records : List Record) (edges : List Edge)
    (header destination : String) (layout : Layout)
    (printed : (records.flatMap Record.edges).toFinset = D) (written : edges.toFinset = A)
    (plainD : ∀ edge ∈ D, IsPlainEdge edge) (plainA : ∀ edge ∈ A, IsPlainEdge edge)
    (leaves : ∀ r ∈ records, r.children = [] → IsPlain r.parent.toList)
    (plainDestination : IsPlain destination.toList)
    (parents : ∀ edge ∈ D, edge.1 ≠ "None")
    (children : ∀ edge ∈ D, edge.2 = destination → destination = "end")
    (oneLine : '\n' ∉ header.toList) :
    ∃ discovered,
      Lattice.parse (report [] (records.map (·.printed destination)) layout) destination =
        .ok discovered ∧
      let c := between discovered (GroundTruth.parse (GroundTruth.render header edges))
      (c.verdict = .pass ↔ D = A) ∧
      ((c.missing.map Discrepancy.edge).Nodup ∧ (∀ d ∈ c.missing, d.kind = .missing) ∧
        (c.missing.map Discrepancy.edge).toFinset = A \ D) ∧
      (c.spurious.map Discrepancy.edge).Nodup ∧ (∀ d ∈ c.spurious, d.kind = .spurious) ∧
        (c.spurious.map Discrepancy.edge).toFinset = D \ A := by
  subst printed written
  simp only [List.mem_toFinset] at plainD plainA parents children
  have truth : GroundTruth.parse (GroundTruth.render header edges) = .ofEdges edges :=
    GroundTruth.parse_render oneLine fun edge listed =>
      ⟨(plainA edge listed).1.isWord, (plainA edge listed).2.isWord⟩
  obtain ⟨verdict, missing, spurious⟩ := between_ofEdges (records.flatMap Record.edges) edges
  refine ⟨.ofEdges (records.flatMap Record.edges),
    parse_printed plainD leaves plainDestination parents children layout, ?_⟩
  rw [truth]
  exact ⟨verdict, ⟨nodup_edges_unshared .., fun d => kind_of_mem_unshared, missing⟩,
    nodup_edges_unshared .., fun d => kind_of_mem_unshared, spurious⟩

/-- One branch of a diamond was found, under a label with a comma in it. The other branch is
missing, and nothing is spurious. -/
theorem between_written_half_diamond :
    ∃ discovered,
      Lattice.parse "Lattice:\nNone, a,b\na,b, 10.0.9.9\n" "10.0.9.9" = .ok discovered ∧
      let c := between discovered
        (GroundTruth.parse "real\nstart a,b\nstart x->y\na,b end\nx->y end\n")
      c.verdict ≠ .pass ∧
      (c.missing.map Discrepancy.edge).toFinset = {("start", "x->y"), ("x->y", "end")} ∧
      (c.spurious.map Discrepancy.edge).toFinset = ∅ := by
  have found := between_written {("start", "a,b"), ("a,b", "end")}
    {("start", "a,b"), ("start", "x->y"), ("a,b", "end"), ("x->y", "end")}
    [⟨"start", ["a,b"]⟩, ⟨"a,b", ["end"]⟩]
    [("start", "a,b"), ("start", "x->y"), ("a,b", "end"), ("x->y", "end")]
    "real" "10.0.9.9" .comma (by decide) (by decide) (by decide) (by decide) (by decide)
    (by decide) (by decide) (by decide) (by decide)
  obtain ⟨discovered, parsed, verdict, ⟨_, _, missing⟩, _, _, spurious⟩ := found
  refine ⟨discovered, parsed, fun pass => ?_, missing.trans (by decide), spurious.trans (by decide)⟩
  exact absurd (verdict.mp pass) (by decide)

end Comparison
end Multipath
