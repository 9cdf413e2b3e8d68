import Mathlib.Logic.Relation
import Multipath.Proofs.GroundTruth
import Multipath.Proofs.Topology.EdgeSet

/-! What a target file says, and what it may be changed in without saying anything else. A target
file says its set of edges, one for each line behind the header that has two words. So the header
may be changed, the lines behind it may be moved and repeated, and whatever is no edge may be put
in. All target files of a topology say that topology. -/
namespace Multipath.GroundTruth

/-- An edit of the lines of a target file, the first of which is the header. -/
inductive Edited : List (List Char) → List (List Char) → Prop where
  | header (old new : List Char) (later : List (List Char)) : Edited (old :: later) (new :: later)
  | moved (header : List Char) {later others : List (List Char)} :
    later.Perm others → Edited (header :: later) (header :: others)
  | repeated (header : List Char) {line : List Char} {before after : List (List Char)} :
    line ∈ before ++ after →
      Edited (header :: (before ++ after)) (header :: (before ++ line :: after))
  | put (header : List Char) {line : List Char} (before after : List (List Char)) :
    (Text.words line).length < 2 →
      Edited (header :: (before ++ after)) (header :: (before ++ line :: after))
  | remarked (header : List Char) {line other : List Char} (before after more : List (List Char)) :
    2 ≤ (Text.words line).length → Text.words other = Text.words line ++ more →
      Edited (header :: (before ++ line :: after)) (header :: (before ++ other :: after))
  | returned {lines others : List (List Char)} :
    List.Forall₂ (fun line other => other = line ∨ other = line ++ ['\r']) lines others →
      Edited lines others

def laterEdges (lines : List (List Char)) : List Edge := (lines.drop 1).filterMap edge?

section Lines

variable {line other : List Char} {lines others : List (List Char)} {edge : Edge}

theorem edge?_eq_some_iff {parent child : String} :
    edge? line = some (parent, child) ↔
      ∃ rest, Text.words line = parent.toList :: child.toList :: rest := by
  unfold edge?
  split
  · rename_i first second rest words
    simp only [words, Option.some.injEq, Prod.mk.injEq, List.cons.injEq]
    constructor
    · rintro ⟨rfl, rfl⟩
      simp
    · rintro ⟨_, rfl, rfl, -⟩
      simp
  · rename_i short
    simp only [reduceCtorEq, false_iff, not_exists]
    exact fun rest words => short _ _ _ words

theorem edge?_eq_none (short : (Text.words line).length < 2) : edge? line = none := by
  unfold edge?
  split
  · rename_i words
    rw [words, List.length_cons, List.length_cons] at short
    omega
  · rfl

theorem edge?_of_words (sameWords : Text.words other = Text.words line) :
    edge? other = edge? line := by
  rw [edge?, sameWords, edge?]

theorem edge?_of_remarked {more : List (List Char)} (long : 2 ≤ (Text.words line).length)
    (words : Text.words other = Text.words line ++ more) : edge? other = edge? line := by
  rw [edge?, words, edge?]
  rcases shape : Text.words line with _ | ⟨parent, _ | ⟨child, rest⟩⟩
  · simp [shape] at long
  · simp [shape] at long
  · rfl

theorem edge?_of_returned (returned : other = line ∨ other = line ++ ['\r']) :
    edge? other = edge? line := by
  rcases returned with rfl | rfl
  · rfl
  · apply edge?_of_words
    exact Text.words_append_blanks (by simp [Text.isBlank_return])

theorem filterMap_edge?_of_returned
    (returned :
      List.Forall₂ (fun line other => other = line ∨ other = line ++ ['\r']) lines others) :
    others.filterMap edge? = lines.filterMap edge? := by
  induction returned with
  | nil => rfl
  | cons first _ ih => rw [List.filterMap_cons, List.filterMap_cons, edge?_of_returned first, ih]

/-- An edit keeps the set of the edges that are described. -/
theorem Edited.mem_laterEdges (edited : Edited lines others) :
    edge ∈ laterEdges others ↔ edge ∈ laterEdges lines := by
  cases edited with
  | header old new later => rfl
  | moved header perm => exact (perm.filterMap edge?).mem_iff.symm
  | @repeated header line before after listed =>
    have sameLines (other : List Char) :
        other ∈ before ++ line :: after ↔ other ∈ before ++ after := by
      rw [List.perm_middle.mem_iff, List.mem_cons]
      exact or_iff_right_of_imp fun isLine => isLine ▸ listed
    simp only [laterEdges, List.drop_one, List.tail_cons, List.mem_filterMap, sameLines]
  | put header before after short =>
    simp [laterEdges, edge?_eq_none short]
  | remarked header before after more long words =>
    simp [laterEdges, edge?_of_remarked long words]
  | returned each =>
    have behind : laterEdges others = laterEdges lines :=
      filterMap_edge?_of_returned (List.forall₂_drop 1 each)
    rw [behind]

theorem mem_laterEdges_of_edits (edits : Relation.ReflTransGen Edited lines others) :
    edge ∈ laterEdges others ↔ edge ∈ laterEdges lines := by
  induction edits with
  | refl => rfl
  | tail _ last ih => exact last.mem_laterEdges.trans ih

theorem laterEdges_map_trim (lines : List (List Char)) :
    laterEdges (lines.map Text.trim) = laterEdges lines := by
  rw [laterEdges, ← List.map_drop, List.filterMap_map, laterEdges]
  exact List.filterMap_congr fun line _ => edge?_of_words (Text.words_trim line)

/-- A blank line at the end describes no edge. -/
theorem laterEdges_append_nil (lines : List (List Char)) :
    laterEdges (lines ++ [[]]) = laterEdges lines := by
  have noEdge : edge? [] = none := rfl
  cases lines with
  | nil => rfl
  | cons header later => simp [laterEdges, noEdge]

end Lines

section Text

variable {text other : String}

/-- A target file may be read by the pieces between its line feeds as well as by its lines. -/
theorem parse_eq_laterEdges (text : String) :
    parse text = .ofEdges (laterEdges (text.toList.splitOn '\n')) := by
  have byLines : parse text = .ofEdges (laterEdges (Text.lines text.toList)) := rfl
  rw [byLines, ← laterEdges_map_trim (text.toList.splitOn '\n')]
  rcases Text.map_trim_splitOn text.toList with asLines | withLast
  · rw [asLines, laterEdges_map_trim]
  · rw [withLast, laterEdges_append_nil, laterEdges_map_trim]

theorem hasEdge_parse {parent child : String} :
    (parse text).hasEdge parent child = true ↔
      ∃ line ∈ (Text.lines text.toList).tail, ∃ rest,
        Text.words line = parent.toList :: child.toList :: rest := by
  rw [parse, Topology.hasEdge_ofEdges, List.mem_filterMap, List.drop_one]
  simp only [edge?_eq_some_iff]

theorem parse_edited
    (edits : Relation.ReflTransGen Edited (text.toList.splitOn '\n') (other.toList.splitOn '\n')) :
    parse other = parse text := by
  rw [parse_eq_laterEdges, parse_eq_laterEdges, Topology.ofEdges_eq_iff]
  intro edge
  exact mem_laterEdges_of_edits edits

/-- A topology is read back from a target file that lists its edges in any order. -/
theorem parse_listing {t : Topology} {header : String} {edges : List Edge} (bears : t.Childbearing)
    (writable : ∀ edge ∈ t.edges, IsWritable edge) (oneLine : '\n' ∉ header.toList)
    (listed : edges.Perm t.edges) : parse (render header edges) = t := by
  rw [parse_render oneLine fun edge member => writable edge (listed.mem_iff.mp member)]
  refine (Topology.childbearing_ofEdges edges).ext bears fun parent child => ?_
  rw [Topology.hasEdge_ofEdges, listed.mem_iff, Topology.mem_edges]

/-- What a target file says. It has an edge for each line behind the header that begins with the two
words of that edge. So it stays the same under any edits of its lines: another header, other places
for the lines behind it, repeated lines, lines put in that have less than two words, further words
behind the first two, and carriage returns in front of the line feeds. And a topology whose labels
are words, each parent with a child, is what is said by a listing of its edges in any order. -/
theorem says_edges_of_later_lines :
    (∀ text parent child, (parse text).hasEdge parent child = true ↔
      ∃ line ∈ (Text.lines text.toList).tail, ∃ rest,
        Text.words line = parent.toList :: child.toList :: rest) ∧
    (∀ text other : String,
      Relation.ReflTransGen Edited (text.toList.splitOn '\n') (other.toList.splitOn '\n') →
      parse other = parse text) ∧
    ∀ (t : Topology) (header : String) (edges : List Edge), t.Childbearing →
      (∀ edge ∈ t.edges, IsWritable edge) → '\n' ∉ header.toList → edges.Perm t.edges →
      parse (render header edges) = t := by
  refine ⟨fun text parent child => hasEdge_parse, fun text other => parse_edited, ?_⟩
  intro t header edges bears writable oneLine listed
  exact parse_listing bears writable oneLine listed

/-- The first file gets another header, its two lines change places, one of them gets a remark, a
line of one word is put behind them, and each line feed gets a carriage return. -/
theorem says_edges_of_later_lines_chain :
    parse "other\r\na end 0.5\r\nstart a\r\nlonely\r\n" = parse "real\nstart a\na end\n" ∧
    (parse "real\nstart a\na end\n").hasEdge "a" "end" = true ∧
    parse (render "real" [("start", "a"), ("a", "end")]) =
      .ofEdges [("a", "end"), ("start", "a")] := by
  obtain ⟨edges, edited, listed⟩ := says_edges_of_later_lines
  refine ⟨edited _ _ ?_, ?_, ?_⟩
  · let source := "start a".toList
    let last := "a end".toList
    let remarked := "a end 0.5".toList
    let lonely := "lonely".toList
    let header := "other".toList
    have changed : Edited ["real".toList, source, last, []] [header, source, last, []] := .header ..
    have moved : Edited [header, source, last, []] [header, last, source, []] :=
      .moved header (.swap last source [[]])
    have noted : Edited [header, last, source, []] [header, remarked, source, []] :=
      .remarked header [] [source, []] ["0.5".toList] (by decide) (by decide)
    have longer : Edited [header, remarked, source, []] [header, remarked, source, lonely, []] :=
      .put header [remarked, source] [[]] (by decide)
    have returned : Edited [header, remarked, source, lonely, []]
        [header ++ ['\r'], remarked ++ ['\r'], source ++ ['\r'], lonely ++ ['\r'], []] := by
      refine .returned ?_
      simp
    exact ((((Relation.ReflTransGen.single changed).tail moved).tail noted).tail longer).tail
      returned
  · exact (edges _ _ _).mpr ⟨"a end".toList, by decide, [], by decide⟩
  · exact listed _ "real" _ (Topology.childbearing_ofEdges _) (by decide) (by decide) (by decide)

end Text
end Multipath.GroundTruth
