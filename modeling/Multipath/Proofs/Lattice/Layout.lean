import Multipath.Lattice.Layout
import Multipath.Proofs.Lattice.Grammar
import Multipath.Proofs.Topology

/-! Reading back what was written in either layout. Words separated by blanks and surrounded by
punctuation are the tokens again, so a row is read as the record that it was written for, and a
report as the edges of its rows. -/
namespace Multipath.Lattice

theorem isPlain_iff {label : List Char} :
    IsPlain label ↔ label ≠ [] ∧ label.all (!Text.isBlank ·) ∧ label.head?.all (!isSeparator ·) ∧
      label.getLast?.all (!isSeparator ·) ∧ label ≠ Lattice.arrow := by
  simp only [List.all_eq_true, Option.all_eq_true, Bool.not_eq_true']
  constructor
  · intro plain
    exact ⟨plain.ne_nil, plain.unbroken, plain.first, plain.last, plain.ne_arrow⟩
  · rintro ⟨full, unbroken, first, last, other⟩
    exact ⟨full, unbroken, first, last, other⟩

instance : DecidablePred IsPlain := fun _ => decidable_of_iff _ isPlain_iff.symm

theorem isBlank_of_isSeparator {c : Char} (h : isSeparator c = true) : Text.isBlank c = false := by
  simp only [isSeparator, Bool.or_eq_true, decide_eq_true_eq] at h
  rcases h with (rfl | rfl) | rfl <;> rfl

section Tokens

variable {s t word behind : List Char} {c : Char}

theorem tokens_append_blank (blank : Text.isBlank c = true) :
    tokens (s ++ c :: t) = tokens s ++ tokens t := by
  rw [tokens, Text.words_append_blank blank, List.map_append, List.filter_append]
  rfl

theorem tokens_punctuation (separators : ∀ c ∈ s, isSeparator c = true) : tokens s = [] := by
  by_cases empty : s = []
  · subst s
    rfl
  · have unbroken : ∀ c ∈ s, Text.isBlank c = false :=
      fun c h => isBlank_of_isSeparator (separators c h)
    rw [tokens, Text.words_word ⟨empty, unbroken⟩]
    simp [Text.strip_of_all separators]

/-- A plain label is the token of the word that it makes with punctuation behind it. -/
theorem tokens_word (plain : IsPlain word) (separators : ∀ c ∈ behind, isSeparator c = true) :
    tokens (word ++ behind) = [word] := by
  have full : word ++ behind ≠ [] := by simp [plain.ne_nil]
  have unbroken : ∀ c ∈ word ++ behind, Text.isBlank c = false := by
    intro c member
    rcases List.mem_append.mp member with inside | after
    · exact plain.unbroken c inside
    · exact isBlank_of_isSeparator (separators c after)
  have stripped : Text.strip isSeparator (word ++ behind) = word := by
    rw [Text.strip_append_right separators, Text.strip_eq_self plain.first plain.last]
  rw [tokens, Text.words_word ⟨full, unbroken⟩, List.map_singleton, stripped]
  simpa using plain.ne_nil

theorem tokens_plain (plain : IsPlain word) : tokens word = [word] := by
  have alone : tokens (word ++ []) = [word] := tokens_word plain (by simp)
  rwa [List.append_nil] at alone

theorem tokens_intercalate {words : List (List Char)} (plain : ∀ word ∈ words, IsPlain word) :
    tokens (separator.intercalate words) = words := by
  induction words with
  | nil => rfl
  | cons word words ih =>
    obtain ⟨first, rest⟩ := List.forall_mem_cons.mp plain
    cases words with
    | nil => rw [List.intercalate_singleton, tokens_plain first]
    | cons next words =>
      have shape : separator.intercalate (word :: next :: words) =
          (word ++ [',']) ++ ' ' :: separator.intercalate (next :: words) := by
        rw [List.intercalate_cons_cons, show separator = [',', ' '] from rfl]
        simp
      rw [shape, tokens_append_blank rfl, tokens_word first (by simp [isSeparator]), ih rest]
      rfl

end Tokens

section Ends

variable {words : List (List Char)}

theorem IsPlain.isWord {word : List Char} (plain : IsPlain word) : Text.IsWord word :=
  ⟨plain.ne_nil, plain.unbroken⟩

/-- What holds of every word, and with two texts also of the two put around a separator, holds of
the words that are put together. -/
theorem intercalate_of_append {Holds : List Char → Prop} (nonempty : words ≠ [])
    (each : ∀ word ∈ words, Holds word)
    (join : ∀ {s t}, Holds s → Holds t → Holds (s ++ separator ++ t)) :
    Holds (separator.intercalate words) := by
  induction words with
  | nil => contradiction
  | cons word words ih =>
    obtain ⟨first, rest⟩ := List.forall_mem_cons.mp each
    cases words with
    | nil =>
      rw [List.intercalate_singleton]
      exact first
    | cons next words =>
      rw [List.intercalate_cons_cons]
      exact join first (ih (List.cons_ne_nil _ _) rest)

theorem isTight_intercalate (nonempty : words ≠ []) (plain : ∀ word ∈ words, IsPlain word) :
    Text.IsTight (separator.intercalate words) :=
  intercalate_of_append nonempty (fun word member => (plain word member).isWord.isTight)
    fun hs ht => hs.append ht separator

theorem not_mem_feed_intercalate (plain : ∀ word ∈ words, IsPlain word) :
    '\n' ∉ separator.intercalate words := by
  by_cases empty : words = []
  · subst words
    exact List.not_mem_nil
  · refine intercalate_of_append empty
      (fun word member => (plain word member).isWord.not_mem_feed) ?_
    intro s t hs ht
    have apart : '\n' ∉ separator := by decide
    simp [hs, ht, apart]

end Ends

structure Row.IsPlain (row : Row) : Prop where
  parent : Lattice.IsPlain row.parent
  children : ∀ child ∈ row.children, Lattice.IsPlain child

instance : DecidablePred Row.IsPlain := fun row =>
  decidable_of_iff (Lattice.IsPlain row.parent ∧ ∀ child ∈ row.children, Lattice.IsPlain child)
    ⟨fun h => ⟨h.1, h.2⟩, fun h => ⟨h.parent, h.children⟩⟩

namespace Row

variable {row : Row}

theorem line_arrow_of_ne_nil (full : row.children ≠ []) :
    row.line .arrow = row.parent ++
      (" -> [ ".toList ++ separator.intercalate row.children ++ [' ']) ++ [']'] := by
  simp [line, full, show " ]".toList = [' ', ']'] from rfl]

/-- The tokens of a row. The arrow is one of them where it is written. -/
theorem tokens_line (plain : row.IsPlain) (layout : Layout) :
    tokens (row.line layout) = row.parent ::
      (if layout = .arrow ∧ row.children ≠ [] then arrow :: row.children else row.children) := by
  have children := tokens_intercalate plain.children
  cases layout with
  | comma =>
    have plainWords : ∀ word ∈ row.parent :: row.children, Lattice.IsPlain word :=
      List.forall_mem_cons.mpr ⟨plain.parent, plain.children⟩
    simpa [line] using tokens_intercalate plainWords
  | arrow =>
    by_cases leaf : row.children = []
    · simpa [line, leaf] using tokens_plain plain.parent
    · have shape : row.line .arrow =
          row.parent ++ ' ' :: (arrow ++ ' ' :: (['['] ++ ' ' ::
            (separator.intercalate row.children ++ ' ' :: [']']))) := by
        rw [line_arrow_of_ne_nil leaf,
          show " -> [ ".toList = ' ' :: arrow ++ [' ', '[', ' '] from rfl]
        simp
      have lone : tokens arrow = [arrow] := rfl
      rw [shape, tokens_append_blank rfl, tokens_append_blank rfl, tokens_append_blank rfl,
        tokens_append_blank rfl, tokens_plain plain.parent, children, lone,
        tokens_punctuation (by simp [isSeparator]), tokens_punctuation (by simp [isSeparator])]
      simp [leaf]

theorem isRecordOf_line (plain : row.IsPlain) (layout : Layout) :
    IsRecordOf row.parent row.children (tokens (row.line layout)) where
  parent_ne := plain.parent.ne_arrow
  not_mem member := (plain.children _ member).ne_arrow rfl
  shape := by
    rw [tokens_line plain]
    split
    · rename_i pointed
      exact .inr ⟨pointed.2, [], row.children, rfl, rfl⟩
    · exact .inl rfl

theorem ofTokens?_line (plain : row.IsPlain) (layout : Layout) (destination : String) :
    Record.ofTokens? destination (tokens (row.line layout)) =
      some ⟨parentLabel row.parent, row.children.map (childLabel destination)⟩ :=
  ofTokens?_of_isRecordOf (isRecordOf_line plain layout) destination

theorem isTight_line (plain : row.IsPlain) (layout : Layout) : Text.IsTight (row.line layout) := by
  cases layout with
  | comma =>
    exact isTight_intercalate (List.cons_ne_nil _ _)
      (List.forall_mem_cons.mpr ⟨plain.parent, plain.children⟩)
  | arrow =>
    by_cases leaf : row.children = []
    · simpa [line, leaf] using plain.parent.isWord.isTight
    · have closing : Text.IsTight [']'] :=
        Text.IsWord.isTight ⟨by simp, List.forall_mem_singleton.mpr rfl⟩
      rw [line_arrow_of_ne_nil leaf]
      exact plain.parent.isWord.isTight.append closing _

theorem not_mem_feed_line (plain : row.IsPlain) (layout : Layout) : '\n' ∉ row.line layout := by
  cases layout with
  | comma =>
    exact not_mem_feed_intercalate (List.forall_mem_cons.mpr ⟨plain.parent, plain.children⟩)
  | arrow =>
    by_cases leaf : row.children = []
    · simpa [line, leaf] using plain.parent.isWord.not_mem_feed
    · have parent := plain.parent.isWord.not_mem_feed
      have children := not_mem_feed_intercalate plain.children
      have opening : '\n' ∉ " -> [ ".toList := by decide
      rw [line_arrow_of_ne_nil leaf]
      simp only [List.mem_append, List.mem_singleton]
      rintro ((inParent | (inOpening | inChildren) | blank) | bracket)
      · exact parent inParent
      · exact opening inOpening
      · exact children inChildren
      · exact absurd blank (by decide)
      · exact absurd bracket (by decide)

def record (row : Row) (destination : String) : Record :=
  ⟨parentLabel row.parent, row.children.map (childLabel destination)⟩

theorem edges_record (row : Row) (destination : String) :
    (row.record destination).edges = row.edges destination := by
  rw [Record.edges, record, Row.edges, List.map_map]
  rfl

end Row

section Report

variable {preamble : List (List Char)} {rows : List Row}

theorem not_mem_feed_of_written (lines : ∀ line ∈ preamble, '\n' ∉ line)
    (plain : ∀ row ∈ rows, row.IsPlain) (layout : Layout) :
    ∀ line ∈ preamble ++ marker :: rows.map (·.line layout), '\n' ∉ line := by
  intro line member
  rcases List.mem_append.mp member with before | after
  · exact lines line before
  · rcases List.mem_cons.mp after with rfl | block
    · decide
    · obtain ⟨row, listed, rfl⟩ := List.mem_map.mp block
      exact Row.not_mem_feed_line (plain row listed) layout

theorem trimmed_lines_report (lines : ∀ line ∈ preamble, '\n' ∉ line)
    (plain : ∀ row ∈ rows, row.IsPlain) (layout : Layout) :
    (Text.lines (report preamble rows layout).toList).map Text.trim =
      preamble.map Text.trim ++ marker :: rows.map (·.line layout) := by
  have tight : rows.map (Text.trim ∘ (·.line layout)) = rows.map (·.line layout) :=
    List.map_congr_left fun row listed => (Row.isTight_line (plain row listed) layout).trim_eq_self
  rw [report, String.toList_ofList,
    Text.lines_of_written (not_mem_feed_of_written lines plain layout), List.map_map,
    show Text.trim ∘ Text.dropReturn = Text.trim from funext Text.trim_dropReturn,
    List.map_append, List.map_cons, List.map_map, tight]
  rfl

/-- What was written in either layout is read back. No line that stands before the marker of the
report holds the marker alone. -/
theorem parse_report (lines : ∀ line ∈ preamble, '\n' ∉ line)
    (unmarked : ∀ line ∈ preamble, Text.trim line ≠ marker)
    (plain : ∀ row ∈ rows, row.IsPlain) (layout : Layout) (destination : String) :
    parse (report preamble rows layout) destination =
      .ok (.ofEdges (rows.flatMap (·.edges destination))) := by
  have first : marker ∉ preamble.map Text.trim := by
    intro member
    obtain ⟨line, listed, isMarker⟩ := List.mem_map.mp member
    exact unmarked line listed isMarker
  have whole : (rows.map (·.line layout)).takeWhile (· ≠ []) = rows.map (·.line layout) := by
    refine List.takeWhile_eq_self_iff.mpr fun line member => ?_
    obtain ⟨row, listed, rfl⟩ := List.mem_map.mp member
    simpa using (Row.isTight_line (plain row listed) layout).full
  have read : List.Forall₂
      (fun line record => Record.ofTokens? destination (tokens line) = some record)
      (rows.map (·.line layout)) (rows.map (·.record destination)) := by
    rw [List.forall₂_map_left_iff, List.forall₂_map_right_iff, List.forall₂_same]
    exact fun row listed => Row.ofTokens?_line (plain row listed) layout destination
  have edges : (rows.map (·.record destination)).flatMap Record.edges =
      rows.flatMap (·.edges destination) := by
    rw [List.flatMap_map]
    simp only [Row.edges_record]
  rw [parse, block?_eq_some (trimmed_lines_report lines plain layout) first, whole]
  simp only [readRecords_eq_ok read, Except.map, edges]

theorem mem_edges_rows {destination parent child : String} :
    (parent, child) ∈ rows.flatMap (·.edges destination) ↔
      ∃ row ∈ rows, ∃ token ∈ row.children,
        parent = parentLabel row.parent ∧ child = childLabel destination token := by
  simp only [List.mem_flatMap, Row.edges, List.mem_map, Prod.mk.injEq, eq_comm]

theorem exists_mem_edges_rows {destination label : String} :
    (∃ child, (label, child) ∈ rows.flatMap (·.edges destination)) ↔
      ∃ row ∈ rows, row.children ≠ [] ∧ label = parentLabel row.parent := by
  simp only [mem_edges_rows]
  constructor
  · rintro ⟨_, row, listed, token, member, isParent, -⟩
    exact ⟨row, listed, List.ne_nil_of_mem member, isParent⟩
  · rintro ⟨row, listed, full, isParent⟩
    obtain ⟨token, member⟩ := List.exists_mem_of_ne_nil _ full
    exact ⟨_, row, listed, token, member, isParent, rfl⟩

/-- Both layouts of a report are read as one topology. Its edges are those of the rows, with the
source and the destination under their own labels, and a row without children adds nothing. -/
theorem layouts_read_back (preamble : List (List Char)) (rows : List Row)
    (lines : ∀ line ∈ preamble, '\n' ∉ line)
    (unmarked : ∀ line ∈ preamble, Text.trim line ≠ marker)
    (plain : ∀ row ∈ rows, row.IsPlain) (destination : String) :
    ∃ t : Topology, (∀ layout, parse (report preamble rows layout) destination = .ok t) ∧
      (∀ parent child, t.hasEdge parent child = true ↔
        ∃ row ∈ rows, ∃ token ∈ row.children,
          parent = (if row.parent = "None".toList then "start" else String.ofList row.parent) ∧
          child = (if token = destination.toList then "end" else String.ofList token)) ∧
      ∀ label, label ∈ t.parents ↔
        ∃ row ∈ rows, row.children ≠ [] ∧
          label = (if row.parent = "None".toList then "start" else String.ofList row.parent) := by
  refine ⟨.ofEdges (rows.flatMap (·.edges destination)), fun layout =>
    parse_report lines unmarked plain layout destination, fun parent child => ?_, fun label => ?_⟩
  · rw [Topology.hasEdge_ofEdges]
    exact mem_edges_rows
  · rw [Topology.mem_parents_ofEdges]
    exact exists_mem_edges_rows

/-- Two lines stand before the marker, one of them with the marker inside of it. The source has
two successors: a label with an arrow in it, and one with a comma in it that leads to the
destination, which is listed twice there and stands alone in the last line. -/
theorem layouts_read_back_branches :
    ∃ t : Topology,
      parse ("to 10.0.9.9\r\nno Lattice:\nLattice:\nNone -> [ a->b, c,d ]\n" ++
        "c,d -> [ 10.0.9.9, 10.0.9.9 ]\n10.0.9.9\n") "10.0.9.9" = .ok t ∧
      parse ("to 10.0.9.9\r\nno Lattice:\nLattice:\nNone, a->b, c,d\n" ++
        "c,d, 10.0.9.9, 10.0.9.9\n10.0.9.9\n") "10.0.9.9" = .ok t ∧
      t.hasEdge "start" "a->b" = true ∧ t.hasEdge "c,d" "end" = true ∧
      "10.0.9.9" ∉ t.parents := by
  obtain ⟨t, read, edges, parents⟩ := layouts_read_back
    ["to 10.0.9.9\r".toList, "no Lattice:".toList]
    [⟨"None".toList, ["a->b".toList, "c,d".toList]⟩,
      ⟨"c,d".toList, ["10.0.9.9".toList, "10.0.9.9".toList]⟩, ⟨"10.0.9.9".toList, []⟩]
    (by decide) (by decide) (by decide) "10.0.9.9"
  refine ⟨t, read .arrow, read .comma, (edges ..).mpr (by decide), (edges ..).mpr (by decide),
    fun listed => ?_⟩
  exact absurd ((parents _).mp listed) (by decide)

end Report
end Multipath.Lattice
