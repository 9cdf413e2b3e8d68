import Multipath.GroundTruth
import Multipath.Proofs.Text

/-! Target files through their edges. A target file that was written for a list of edges is read
back as these edges, whatever its header says. -/
namespace Multipath.GroundTruth

def IsWritable (edge : Edge) : Prop := Text.IsWord edge.1.toList ∧ Text.IsWord edge.2.toList

instance : DecidablePred IsWritable := fun _ => inferInstanceAs (Decidable (_ ∧ _))

def edgeLine (edge : Edge) : List Char := edge.1.toList ++ ' ' :: edge.2.toList

theorem toList_render (header : String) (edges : List Edge) :
    (render header edges).toList = (header.toList :: edges.map edgeLine).flatMap (· ++ ['\n']) := by
  simp [render, edgeLine, List.flatMap_map]

theorem not_mem_feed_edgeLine {edge : Edge} (writable : IsWritable edge) :
    '\n' ∉ edgeLine edge := by
  intro member
  rcases List.mem_append.mp member with parent | rest
  · exact writable.1.not_mem_feed parent
  · rcases List.mem_cons.mp rest with blank | child
    · exact absurd blank (by decide)
    · exact writable.2.not_mem_feed child

/-- A carriage return at the end of the line makes no difference. -/
theorem edge?_dropReturn_edgeLine {edge : Edge} (writable : IsWritable edge) :
    edge? (Text.dropReturn (edgeLine edge)) = some edge := by
  have words : Text.words (Text.dropReturn (edgeLine edge)) = [edge.1.toList, edge.2.toList] := by
    rw [Text.words_dropReturn, edgeLine, Text.words_append_blank rfl, Text.words_word writable.1,
      Text.words_word writable.2]
    rfl
  simp [edge?, words]

theorem parse_render {header : String} {edges : List Edge} (oneLine : '\n' ∉ header.toList)
    (writable : ∀ edge ∈ edges, IsWritable edge) :
    parse (render header edges) = .ofEdges edges := by
  have written : ∀ line ∈ header.toList :: edges.map edgeLine, '\n' ∉ line := by
    refine List.forall_mem_cons.mpr ⟨oneLine, fun line member => ?_⟩
    obtain ⟨edge, listed, rfl⟩ := List.mem_map.mp member
    exact not_mem_feed_edgeLine (writable edge listed)
  have read : edges.filterMap (fun edge => edge? (Text.dropReturn (edgeLine edge))) = edges := by
    rw [List.filterMap_congr fun edge listed => edge?_dropReturn_edgeLine (writable edge listed),
      List.filterMap_some]
  rw [parse, toList_render, Text.lines_of_written written, List.map_cons, List.drop_one,
    List.tail_cons, List.map_map, List.filterMap_map]
  exact congrArg Topology.ofEdges read

end Multipath.GroundTruth
