import Multipath.Proofs.Lattice.Layout
import Multipath.Proofs.Lattice.Malformed
import Multipath.Proofs.Topology.EdgeSet

/-! The edges and the labels of an accepted report. Whatever stands in the report, the edges are
those that the records of its block name, and a label is a plain token or one of the two labels
that the source and the destination have. -/
namespace Multipath.Lattice

section Tokens

variable {line token : List Char}

theorem isPlain_of_mem_tokens (member : token ∈ tokens line) (other : token ≠ arrow) :
    IsPlain token := by
  obtain ⟨stripped, full⟩ := List.mem_filter.mp member
  obtain ⟨word, among, rfl⟩ := List.mem_map.mp stripped
  refine ⟨by simpa using full, fun c inside => ?_, Text.first_strip isSeparator word,
    Text.last_strip isSeparator word, other⟩
  obtain ⟨front, behind, whole, -, -⟩ := Text.exists_stripped isSeparator word
  apply (Text.isWord_of_mem_words among).unbroken
  rw [whole]
  simp [inside]

theorem isPlain_parentLabel (plain : IsPlain token) : IsPlain (parentLabel token).toList := by
  unfold parentLabel
  split
  · decide
  · rwa [String.toList_ofList]

theorem isPlain_childLabel (plain : IsPlain token) (destination : String) :
    IsPlain (childLabel destination token).toList := by
  unfold childLabel
  split
  · decide
  · rwa [String.toList_ofList]

theorem parentLabel_ne_origin (token : List Char) : parentLabel token ≠ "None" := by
  unfold parentLabel
  split
  · decide
  · rename_i other
    intro isOrigin
    apply other
    rw [← String.toList_ofList (l := token), isOrigin]
    rfl

theorem eq_end_of_childLabel_eq {destination : String}
    (isDestination : childLabel destination token = destination) : destination = "end" := by
  unfold childLabel at isDestination
  split at isDestination
  · exact isDestination.symm
  · rename_i other
    rw [← isDestination, String.toList_ofList] at other
    exact absurd rfl other

end Tokens

section Records

variable {destination : String} {tokens : List (List Char)} {record : Record} {edge : Edge}

/-- What a record was read from. -/
theorem ofTokens?_origin (read : Record.ofTokens? destination tokens = some record) :
    ∃ first rest, tokens = first :: rest ∧ first ≠ arrow ∧
      record = ⟨parentLabel first, (rest.filter (· ≠ arrow)).map (childLabel destination)⟩ := by
  cases tokens with
  | nil => contradiction
  | cons first rest =>
    rw [Record.ofTokens?] at read
    split at read
    · contradiction
    · rename_i sound
      push Not at sound
      exact ⟨first, rest, rfl, sound.1, (Option.some.inj read).symm⟩

theorem mem_edges_of_read (read : Record.ofTokens? destination tokens = some record) :
    edge ∈ record.edges ↔ ∃ first rest token, tokens = first :: rest ∧ token ∈ rest ∧
      token ≠ arrow ∧ edge = (parentLabel first, childLabel destination token) := by
  obtain ⟨first, rest, rfl, -, rfl⟩ := ofTokens?_origin read
  simp only [Record.edges, List.map_map, List.mem_map, List.mem_filter, decide_eq_true_eq]
  constructor
  · rintro ⟨token, ⟨member, other⟩, rfl⟩
    exact ⟨first, rest, token, rfl, member, other, rfl⟩
  · rintro ⟨_, _, token, whole, member, other, rfl⟩
    obtain ⟨rfl, rfl⟩ := List.cons.inj whole
    exact ⟨token, ⟨member, other⟩, rfl⟩

end Records

section Block

variable {destination : String} {n : Nat} {line : List Char} {lines : List (List Char)}
  {records : List Record} {edge : Edge}

def lineEdges (destination : String) (line : List Char) : List Edge :=
  ((Record.ofTokens? destination (tokens line)).map Record.edges).getD []

theorem lineEdges_of_read {record : Record}
    (read : Record.ofTokens? destination (tokens line) = some record) :
    lineEdges destination line = record.edges := by
  rw [lineEdges, read]
  rfl

theorem flatMap_edges_of_readRecords
    (read : readRecords destination (numberFrom n (lines.map Text.trim)) = .ok records) :
    records.flatMap Record.edges = lines.flatMap (lineEdges destination) := by
  induction lines generalizing n records with
  | nil =>
    cases read
    rfl
  | cons line lines ih =>
    rw [List.map_cons, numberFrom] at read
    obtain ⟨record, later, found, readLater, rfl⟩ := exists_of_readRecords_cons read
    rw [tokens_trim] at found
    rw [List.flatMap_cons, List.flatMap_cons, ih readLater, lineEdges_of_read found]

theorem mem_lineEdges (sound : ¬IsMalformed (tokens line)) :
    edge ∈ lineEdges destination line ↔ ∃ first rest token, tokens line = first :: rest ∧
      token ∈ rest ∧ token ≠ arrow ∧ edge = (parentLabel first, childLabel destination token) := by
  cases read : Record.ofTokens? destination (tokens line) with
  | none => exact absurd (ofTokens?_eq_none_iff.mp read) sound
  | some record => rw [lineEdges_of_read read, mem_edges_of_read read]

theorem mem_edges_of_readRecords
    (read : readRecords destination (numberFrom n (lines.map Text.trim)) = .ok records) :
    edge ∈ records.flatMap Record.edges ↔
      ∃ line ∈ lines, ∃ first rest token, tokens line = first :: rest ∧ token ∈ rest ∧
        token ≠ arrow ∧ edge = (parentLabel first, childLabel destination token) := by
  have sound := readRecords_isOk_iff.mp ⟨records, read⟩
  rw [flatMap_edges_of_readRecords read, List.mem_flatMap]
  exact exists_congr fun line => and_congr_right fun inside => mem_lineEdges (sound line inside)

end Block

section Report

variable {report destination parent child label : String} {t : Topology}
  {before block after : List (List Char)} {opening : List Char}

/-- An accepted report has the edges that the records of its block name. -/
theorem exists_edges_of_parse
    (framed : Framed (Text.lines report.toList) before opening block after)
    (read : parse report destination = .ok t) :
    ∃ edges, t = .ofEdges edges ∧
      ∀ edge, edge ∈ edges ↔ ∃ line ∈ block, ∃ first rest token, tokens line = first :: rest ∧
        token ∈ rest ∧ token ≠ arrow ∧
        edge = (parentLabel first, childLabel destination token) := by
  rw [parse_framed framed, readBlock] at read
  obtain ⟨records, readable, made⟩ := exists_of_map_eq_ok read
  exact ⟨records.flatMap Record.edges, made.symm, fun edge => mem_edges_of_readRecords readable⟩

theorem childbearing_of_parse (read : parse report destination = .ok t) : t.Childbearing := by
  obtain ⟨before, opening, block, after, framed, -⟩ := parse_isOk_iff.mp ⟨t, read⟩
  obtain ⟨edges, rfl, -⟩ := exists_edges_of_parse framed read
  exact Topology.childbearing_ofEdges edges

theorem hasEdge_of_parse (framed : Framed (Text.lines report.toList) before opening block after)
    (read : parse report destination = .ok t) :
    t.hasEdge parent child = true ↔
      ∃ line ∈ block, ∃ first rest token, tokens line = first :: rest ∧ token ∈ rest ∧ token ≠ arrow ∧
      parent = parentLabel first ∧ child = childLabel destination token := by
  obtain ⟨edges, rfl, named⟩ := exists_edges_of_parse framed read
  rw [Topology.hasEdge_ofEdges, named]
  simp only [Prod.mk.injEq]

/-- Both labels of an edge come from plain tokens. -/
theorem exists_tokens_of_hasEdge (read : parse report destination = .ok t)
    (edge : t.hasEdge parent child = true) :
    ∃ first token, IsPlain first ∧ IsPlain token ∧
      parent = parentLabel first ∧ child = childLabel destination token := by
  obtain ⟨before, opening, block, after, framed, sound⟩ := parse_isOk_iff.mp ⟨t, read⟩
  obtain ⟨line, inside, first, rest, token, whole, member, other, rfl, rfl⟩ :=
    (hasEdge_of_parse framed read).mp edge
  have leads : first ≠ arrow := by
    rintro rfl
    exact sound line inside (.inr (.inl (by simp [whole])))
  have begins : first ∈ tokens line := by simp [whole]
  have follows : token ∈ tokens line := by simp [whole, member]
  exact ⟨first, token, isPlain_of_mem_tokens begins leads, isPlain_of_mem_tokens follows other,
    rfl, rfl⟩

theorem exists_hasEdge_of_mem_parents (read : parse report destination = .ok t)
    (listed : label ∈ t.parents) : ∃ child, t.hasEdge label child = true :=
  (childbearing_of_parse read).mem_parents_iff.mp listed

/-- An accepted report has exactly the edges that the records of its block name: from the first
token of a line to each later one that is not the arrow, with the source and the destination under
their own labels. No label stands without a child, all labels are plain, and neither the word for
the source nor the destination is left where it has a label of its own. -/
theorem edges_and_labels_of_parse (report destination : String) (t : Topology)
    (read : parse report destination = .ok t) :
    (∀ parent child, t.hasEdge parent child = true ↔
      ∃ before opening block after line first rest token,
        Framed (Text.lines report.toList) before opening block after ∧ line ∈ block ∧
        tokens line = first :: rest ∧ token ∈ rest ∧ token ≠ "->".toList ∧
        parent = (if first = "None".toList then "start" else String.ofList first) ∧
        child = (if token = destination.toList then "end" else String.ofList token)) ∧
    t.Childbearing ∧
    (∀ label, (label ∈ t.parents ∨ ∃ parent, t.hasEdge parent label = true) →
      IsPlain label.toList) ∧
    "None" ∉ t.parents ∧
    ∀ parent, t.hasEdge parent destination = true → destination = "end" := by
  refine ⟨fun parent child => ⟨?_, ?_⟩, childbearing_of_parse read, ?_, ?_, ?_⟩
  · intro edge
    obtain ⟨before, opening, block, after, framed, -⟩ := parse_isOk_iff.mp ⟨t, read⟩
    obtain ⟨line, inside, first, rest, token, named⟩ := (hasEdge_of_parse framed read).mp edge
    exact ⟨before, opening, block, after, line, first, rest, token, framed, inside, named⟩
  · rintro ⟨before, opening, block, after, line, first, rest, token, framed, inside, named⟩
    exact (hasEdge_of_parse framed read).mpr ⟨line, inside, first, rest, token, named⟩
  · rintro label (listed | ⟨parent, edge⟩)
    · obtain ⟨child, edge⟩ := exists_hasEdge_of_mem_parents read listed
      obtain ⟨first, -, plain, -, rfl, -⟩ := exists_tokens_of_hasEdge read edge
      exact isPlain_parentLabel plain
    · obtain ⟨-, token, -, plain, -, rfl⟩ := exists_tokens_of_hasEdge read edge
      exact isPlain_childLabel plain destination
  · intro listed
    obtain ⟨child, edge⟩ := exists_hasEdge_of_mem_parents read listed
    obtain ⟨first, -, -, -, isParent, -⟩ := exists_tokens_of_hasEdge read edge
    exact parentLabel_ne_origin first isParent.symm
  · intro parent edge
    obtain ⟨-, token, -, -, -, isChild⟩ := exists_tokens_of_hasEdge read edge
    exact eq_end_of_childLabel_eq isChild.symm

/-- The source has the destination and a label with an arrow in it as children. The latter stands
in brackets where it is a parent, and its own child behind an arrow that is a word of its own. -/
theorem edges_and_labels_of_parse_branch :
    ∃ t, parse "Lattice:\nNone -> [ a->b, 10.0.9.9 ]\n[a->b], c [->]\n\nd, e\n" "10.0.9.9" = .ok t ∧
      t.hasEdge "start" "end" = true ∧ t.hasEdge "a->b" "c" = true ∧
      ¬t.hasEdge "d" "e" = true ∧ t.Childbearing ∧ "None" ∉ t.parents := by
  have read : parse "Lattice:\nNone -> [ a->b, 10.0.9.9 ]\n[a->b], c [->]\n\nd, e\n" "10.0.9.9" =
      .ok (.ofEdges [("start", "a->b"), ("start", "end"), ("a->b", "c")]) := rfl
  obtain ⟨-, bears, -, origin, -⟩ := edges_and_labels_of_parse _ _ _ read
  exact ⟨_, read, by decide, by decide, by decide, bears, origin⟩

end Report
end Multipath.Lattice
