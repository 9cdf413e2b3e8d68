import Multipath.Proofs.Lattice.Framing
import Multipath.Proofs.Lattice.Grammar
import Multipath.Proofs.Lattice.Labels

/-! Blocks that are put together. Each record is read on its own. So a block of two parts has the
edges of both, and what is wrong with it is wrong with one of them, in a line that the second part
counts from the end of the first. The lattice of a block that is accepted does not depend on the
order of the records, on how often a record is written, or on whether the children of a parent
stand in one record or in several. -/
namespace Multipath.Lattice

structure BlockLine where
  text : String
  unbroken : '\n' ∉ text.toList
  full : Text.trim text.toList ≠ []

def BlockLine.tokens (line : BlockLine) : List (List Char) := Lattice.tokens line.text.toList

/-- What stands around the block of a report: the lines before the marker, the line that holds it,
and the lines behind the block, the first of which is blank if there are any. -/
structure Frame where
  before : List String
  opening : String
  behind : List String
  unbroken : ∀ line ∈ before ++ opening :: behind, '\n' ∉ line.toList
  unmarked : ∀ line ∈ before, Text.trim line.toList ≠ marker
  opens : Text.trim opening.toList = marker
  closed : ∀ line ∈ behind.head?, Text.trim line.toList = []

namespace Frame

def lines (frame : Frame) (block : List BlockLine) : List String :=
  frame.before ++ frame.opening :: (block.map (·.text) ++ frame.behind)

def around (frame : Frame) (block : List BlockLine) : String :=
  "\n".intercalate (frame.lines block)

def first (frame : Frame) : Nat := frame.before.length + 2

end Frame

section Lines

variable {destination : String} {n : Nat} {line : List Char}
  {lines first second : List (List Char)} {e : Lattice.Error} {t : Topology}

theorem lineEdges_of_isRecordOf {parent : List Char} {children : List (List Char)}
    (names : IsRecordOf parent children (tokens line)) (destination : String) :
    lineEdges destination line =
      children.map fun child => (parentLabel parent, childLabel destination child) := by
  rw [lineEdges_of_read (ofTokens?_of_isRecordOf names destination), Record.edges, List.map_map]
  rfl

/-- A block is accepted if no line is malformed, and then it is read as the edges of its lines. -/
theorem readBlock_eq_ok_iff :
    readBlock destination n (lines.map Text.trim) = .ok t ↔
      (∀ line ∈ lines, ¬IsMalformed (tokens line)) ∧
        t = .ofEdges (lines.flatMap (lineEdges destination)) := by
  constructor
  · intro accepted
    obtain ⟨records, read, made⟩ := exists_of_map_eq_ok accepted
    refine ⟨readRecords_isOk_iff.mp ⟨records, read⟩, ?_⟩
    rw [← made, flatMap_edges_of_readRecords read]
  · rintro ⟨sound, rfl⟩
    obtain ⟨records, read⟩ := readRecords_isOk_iff.mpr sound
    rw [readBlock, read, ← flatMap_edges_of_readRecords read]
    rfl

/-- The records of the first part are read before those of the second, and without regard to them.
-/
theorem readRecords_append :
    readRecords destination (numberFrom n (first ++ second)) =
      (readRecords destination (numberFrom n first)).bind fun records =>
        (readRecords destination (numberFrom (n + first.length) second)).map (records ++ ·) := by
  induction first generalizing n with
  | nil =>
    show readRecords destination (numberFrom n second) =
      (readRecords destination (numberFrom n second)).map ([] ++ ·)
    cases readRecords destination (numberFrom n second) <;> rfl
  | cons line first ih =>
    have next : n + (line :: first).length = n + 1 + first.length := by
      rw [List.length_cons]
      omega
    rw [List.cons_append, numberFrom, numberFrom, next]
    cases read : Record.ofTokens? destination (tokens line) with
    | none =>
      rw [readRecords_malformed read, readRecords_malformed read]
      rfl
    | some record =>
      rw [readRecords_record read, readRecords_record read, ih]
      cases readRecords destination (numberFrom (n + 1) first) with
      | error e => rfl
      | ok records =>
        cases readRecords destination (numberFrom (n + 1 + first.length) second) <;> rfl

/-- A block of two parts is rejected for the first part, or else for the second. -/
theorem readBlock_append_eq_error_iff :
    readBlock destination n (first ++ second) = .error e ↔
      readBlock destination n first = .error e ∨
      (∃ t, readBlock destination n first = .ok t) ∧
        ∃ own, readBlock destination n second = .error own ∧ e = own.shift first.length := by
  -- The second part is numbered on from the first, so its own error is moved by the first's length.
  simp only [readBlock, map_eq_error_iff, isOk_map_iff, readRecords_append, readRecords_shift]
  cases readRecords destination (numberFrom n first) with
  | error own => simp [Except.bind]
  | ok records =>
    cases readRecords destination (numberFrom n second) with
    | error own => simp [Except.bind, Except.map, Except.mapError, eq_comm]
    | ok later => simp [Except.bind, Except.map, Except.mapError]

end Lines

section Report

variable {frame : Frame} {destination : String} {block other : List BlockLine} {t : Topology}
  {e : Lattice.Error}

theorem pieces_intercalate {lines : List String} (nonempty : lines ≠ [])
    (unbroken : ∀ line ∈ lines, '\n' ∉ line.toList) :
    pieces ("\n".intercalate lines) = lines.map fun line => Text.trim line.toList := by
  have each : ∀ line ∈ lines.map String.toList, '\n' ∉ line := by
    intro line member
    obtain ⟨text, among, rfl⟩ := List.mem_map.mp member
    exact unbroken text among
  have feed : ("\n" : String).toList = ['\n'] := rfl
  have full : lines.map String.toList ≠ [] := by simpa using nonempty
  rw [pieces, String.toList_intercalate, feed, List.splitOn_intercalate '\n' each full,
    List.map_map]
  rfl

theorem Frame.not_mem_feed_lines (frame : Frame) (block : List BlockLine) :
    ∀ line ∈ frame.lines block, '\n' ∉ line.toList := by
  have around := frame.unbroken
  simp only [Frame.lines, List.forall_mem_append, List.forall_mem_cons] at around ⊢
  refine ⟨around.1, around.2.1, ?_, around.2.2⟩
  intro text member
  obtain ⟨line, -, rfl⟩ := List.mem_map.mp member
  exact line.unbroken

theorem pieces_around (frame : Frame) (block : List BlockLine) :
    pieces (frame.around block) =
      (frame.before.map fun line => Text.trim line.toList) ++ marker ::
        ((block.map (·.text.toList)).map Text.trim ++
          frame.behind.map fun line => Text.trim line.toList) := by
  have full : frame.lines block ≠ [] := by simp [Frame.lines]
  rw [Frame.around, pieces_intercalate full (frame.not_mem_feed_lines block), Frame.lines]
  simp [frame.opens]

/-- Of a report only the block is read, and how many lines stand before it. -/
theorem parse_around (frame : Frame) (block : List BlockLine) (destination : String) :
    parse (frame.around block) destination =
      readBlock destination frame.first ((block.map (·.text.toList)).map Text.trim) := by
  have unmarked : marker ∉ frame.before.map fun line => Text.trim line.toList := by
    intro member
    obtain ⟨line, early, isMarker⟩ := List.mem_map.mp member
    exact frame.unmarked line early isMarker
  have full : ∀ line ∈ (block.map (·.text.toList)).map Text.trim, decide (line ≠ []) = true := by
    intro trimmed member
    simp only [List.map_map, List.mem_map] at member
    obtain ⟨line, -, rfl⟩ := member
    simpa using line.full
  have closed : (frame.behind.map fun line => Text.trim line.toList).takeWhile (· ≠ []) = [] := by
    have blank := frame.closed
    cases behind : frame.behind with
    | nil => rfl
    | cons line later =>
      rw [behind] at blank
      simp [blank line rfl]
  rw [parse_eq_pieces, pieces_around, parseLines_marked unmarked, List.takeWhile_append_of_pos full,
    closed, List.append_nil, List.length_map, Frame.first]

theorem parse_around_eq_ok_iff :
    parse (frame.around block) destination = .ok t ↔
      (∀ line ∈ block, ¬IsMalformed line.tokens) ∧
        t = .ofEdges (block.flatMap fun line => lineEdges destination line.text.toList) := by
  rw [parse_around, readBlock_eq_ok_iff, List.forall_mem_map, List.flatMap_map]
  rfl

theorem parse_around_isOk_iff :
    (∃ t, parse (frame.around block) destination = .ok t) ↔
      ∀ line ∈ block, ¬IsMalformed line.tokens := by
  simp [parse_around_eq_ok_iff]

theorem parse_around_eq_error_iff :
    parse (frame.around block) destination = .error e ↔
      ∃ good bad rest, block = good ++ bad :: rest ∧ (∀ line ∈ good, ¬IsMalformed line.tokens) ∧
        IsMalformed bad.tokens ∧
        e = .malformedRecord (frame.first + good.length)
          (String.ofList (Text.trim bad.text.toList)) := by
  rw [parse_around, readBlock, map_eq_error_iff, readRecords_eq_error_iff]
  constructor
  · rintro ⟨good, bad, rest, whole, sound, malformed, rfl⟩
    obtain ⟨good, others, rfl, rfl, behind⟩ := List.map_eq_append_iff.mp whole
    obtain ⟨bad, rest, rfl, rfl, rfl⟩ := List.map_eq_cons_iff.mp behind
    rw [List.forall_mem_map] at sound
    refine ⟨good, bad, rest, rfl, sound, malformed, ?_⟩
    rw [List.length_map]
  · rintro ⟨good, bad, rest, rfl, sound, malformed, rfl⟩
    refine ⟨good.map (·.text.toList), bad.text.toList, rest.map (·.text.toList), ?_, ?_, malformed,
      ?_⟩
    · rw [List.map_append, List.map_cons]
    · rwa [List.forall_mem_map]
    · rw [List.length_map]

/-- An accepted block may be replaced by any well-formed lines that name the same edges. -/
theorem parse_around_of_same_edges (accepted : parse (frame.around block) destination = .ok t)
    (sound : ∀ line ∈ other, ¬IsMalformed line.tokens)
    (sameEdges : ∀ edge, edge ∈ other.flatMap (fun line => lineEdges destination line.text.toList) ↔
      edge ∈ block.flatMap fun line => lineEdges destination line.text.toList) :
    parse (frame.around other) destination = .ok t := by
  obtain ⟨-, rfl⟩ := parse_around_eq_ok_iff.mp accepted
  exact parse_around_eq_ok_iff.mpr ⟨sound, (Topology.ofEdges_eq_iff.mpr sameEdges).symm⟩

theorem parse_around_of_same_lines (accepted : parse (frame.around block) destination = .ok t)
    (sameLines : ∀ line, line ∈ other ↔ line ∈ block) :
    parse (frame.around other) destination = .ok t := by
  have sound := (parse_around_eq_ok_iff.mp accepted).1
  apply parse_around_of_same_edges accepted
  · intro line member
    exact sound line ((sameLines line).mp member)
  · intro edge
    simp only [List.mem_flatMap, sameLines]

section Split

variable {line : BlockLine} {single : List BlockLine} {parent : List Char}
  {children : List (List Char)}

theorem flatMap_lineEdges_of_split
    (each : List.Forall₂ (fun child own => IsRecordOf parent [child] own.tokens) children single)
    (destination : String) :
    (single.flatMap fun own => lineEdges destination own.text.toList) =
      children.map fun child => (parentLabel parent, childLabel destination child) := by
  induction each with
  | nil => rfl
  | cons names _ ih =>
    rw [List.flatMap_cons, ih, lineEdges_of_isRecordOf names]
    rfl

theorem not_isMalformed_of_split
    (each : List.Forall₂ (fun child own => IsRecordOf parent [child] own.tokens) children single) :
    ∀ own ∈ single, ¬IsMalformed own.tokens := by
  induction each with
  | nil => simp
  | cons names _ ih => exact List.forall_mem_cons.mpr ⟨names.not_isMalformed, ih⟩

/-- The children of a parent may be written in records of their own. -/
theorem parse_around_of_split {before after : List BlockLine}
    (accepted : parse (frame.around (before ++ line :: after)) destination = .ok t)
    (names : IsRecordOf parent children line.tokens)
    (each : List.Forall₂ (fun child own => IsRecordOf parent [child] own.tokens) children single) :
    parse (frame.around (before ++ single ++ after)) destination = .ok t := by
  have sound := (parse_around_eq_ok_iff.mp accepted).1
  have edges : (single.flatMap fun own => lineEdges destination own.text.toList) =
      lineEdges destination line.text.toList := by
    rw [flatMap_lineEdges_of_split each, lineEdges_of_isRecordOf names]
  apply parse_around_of_same_edges accepted
  · simp only [List.forall_mem_append, List.forall_mem_cons] at sound ⊢
    exact ⟨⟨sound.1, not_isMalformed_of_split each⟩, sound.2.2⟩
  · intro edge
    simp only [List.flatMap_append, List.flatMap_cons, edges, List.append_assoc]

end Split

/-- A block is read record by record, whatever it stands in. It is rejected for its first malformed
line alone. Two blocks that are put together are accepted if both are, with the edges of both, and
otherwise the error is that of the first block, or else that of the second with its line moved by
the length of the first. The lattice of an accepted block stays the same if the records are put in
another order, if one is repeated, and if one is replaced by a record for each of its children. -/
theorem parse_record_by_record (frame : Frame) (destination : String) :
    let read := fun block => parse (frame.around block) destination
    (∀ block e, read block = .error e ↔
      ∃ good bad rest, block = good ++ bad :: rest ∧ (∀ line ∈ good, ¬IsMalformed line.tokens) ∧
        IsMalformed bad.tokens ∧
        e = .malformedRecord (frame.first + good.length)
          (String.ofList (Text.trim bad.text.toList))) ∧
    (∀ one two,
      ((∃ t, read (one ++ two) = .ok t) ↔ (∃ t, read one = .ok t) ∧ ∃ u, read two = .ok u) ∧
      (∀ t u both, read one = .ok t → read two = .ok u → read (one ++ two) = .ok both →
        ∀ parent child, both.hasEdge parent child = true ↔
          t.hasEdge parent child = true ∨ u.hasEdge parent child = true) ∧
      ∀ e, read (one ++ two) = .error e ↔ read one = .error e ∨
        (∃ t, read one = .ok t) ∧ ∃ own, read two = .error own ∧ e = own.shift one.length) ∧
    ∀ block t, read block = .ok t →
      (∀ other, block.Perm other → read other = .ok t) ∧
      (∀ before line after, block = before ++ after → line ∈ block →
        read (before ++ line :: after) = .ok t) ∧
      ∀ before line after parent children single, block = before ++ line :: after →
        IsRecordOf parent children line.tokens →
        List.Forall₂ (fun child own => IsRecordOf parent [child] own.tokens) children single →
        read (before ++ single ++ after) = .ok t := by
  intro read
  refine ⟨fun block e => parse_around_eq_error_iff, fun one two => ⟨?_, ?_, ?_⟩,
    fun block t accepted => ⟨?_, ?_, ?_⟩⟩
  · simp only [read, parse_around_isOk_iff, List.forall_mem_append]
  · intro t u both first second whole parent child
    obtain ⟨-, rfl⟩ := parse_around_eq_ok_iff.mp first
    obtain ⟨-, rfl⟩ := parse_around_eq_ok_iff.mp second
    obtain ⟨-, rfl⟩ := parse_around_eq_ok_iff.mp whole
    simp only [Topology.hasEdge_ofEdges, List.flatMap_append, List.mem_append]
  · intro e
    simp only [read, parse_around, List.map_append, readBlock_append_eq_error_iff, List.length_map]
  · intro other reordered
    exact parse_around_of_same_lines accepted fun line => reordered.mem_iff.symm
  · rintro before line after rfl listed
    apply parse_around_of_same_lines accepted
    intro other
    rw [List.perm_middle.mem_iff, List.mem_cons]
    exact or_iff_right_of_imp fun isLine => isLine ▸ listed
  · rintro before line after parent children single rfl names each
    exact parse_around_of_split accepted names each

/-- The source has one successor, which has two. A block of the two records has the edges of both.
The records are put in another order, the first is written twice, and the second is written as two,
in either layout. -/
theorem parse_record_by_record_fork :
    ∃ t u both, parse "to c\nLattice:\nNone, a" "c" = .ok t ∧
      parse "to c\nLattice:\na -> [ b, c ]" "c" = .ok u ∧
      (∀ parent child, both.hasEdge parent child = true ↔
        t.hasEdge parent child = true ∨ u.hasEdge parent child = true) ∧
      parse "to c\nLattice:\nNone, a\na -> [ b, c ]" "c" = .ok both ∧
      parse "to c\nLattice:\na -> [ b, c ]\nNone, a" "c" = .ok both ∧
      parse "to c\nLattice:\nNone, a\nNone, a\na -> [ b, c ]" "c" = .ok both ∧
      parse "to c\nLattice:\nNone, a\na, b\n[a] -> c" "c" = .ok both := by
  let frame : Frame := ⟨["to c"], "Lattice:", [], by decide, by decide, rfl, by simp⟩
  let source : BlockLine := ⟨"None, a", by decide, by decide⟩
  let fork : BlockLine := ⟨"a -> [ b, c ]", by decide, by decide⟩
  let flat : BlockLine := ⟨"a, b", by decide, by decide⟩
  let pointed : BlockLine := ⟨"[a] -> c", by decide, by decide⟩
  have first : parse "to c\nLattice:\nNone, a" "c" = .ok (.ofEdges [("start", "a")]) := rfl
  have second : parse "to c\nLattice:\na -> [ b, c ]" "c" =
      .ok (.ofEdges [("a", "b"), ("a", "end")]) := rfl
  have whole : parse "to c\nLattice:\nNone, a\na -> [ b, c ]" "c" =
      .ok (.ofEdges [("start", "a"), ("a", "b"), ("a", "end")]) := rfl
  have forked : IsRecordOf "a".toList ["b".toList, "c".toList] (tokens "a -> [ b, c ]".toList) :=
    ⟨by decide, by decide, .inr ⟨by decide, [], _, rfl, rfl⟩⟩
  have left : IsRecordOf "a".toList ["b".toList] (tokens "a, b".toList) :=
    ⟨by decide, by decide, .inl rfl⟩
  have right : IsRecordOf "a".toList ["c".toList] (tokens "[a] -> c".toList) :=
    ⟨by decide, by decide, .inr ⟨by decide, [], _, rfl, rfl⟩⟩
  have one : frame.around [source] = "to c\nLattice:\nNone, a" := rfl
  have two : frame.around [fork] = "to c\nLattice:\na -> [ b, c ]" := rfl
  have inOrder : frame.around ([source] ++ [fork]) =
      "to c\nLattice:\nNone, a\na -> [ b, c ]" := rfl
  have swapped : frame.around [fork, source] = "to c\nLattice:\na -> [ b, c ]\nNone, a" := rfl
  have twice : frame.around ([] ++ source :: [source, fork]) =
      "to c\nLattice:\nNone, a\nNone, a\na -> [ b, c ]" := rfl
  have apart : frame.around ([source] ++ [flat, pointed] ++ []) =
      "to c\nLattice:\nNone, a\na, b\n[a] -> c" := rfl
  obtain ⟨-, parts, rearranged⟩ := parse_record_by_record frame "c"
  rw [← one] at first
  rw [← two] at second
  rw [← inOrder] at whole
  obtain ⟨reordered, repeated, split⟩ := rearranged _ _ whole
  rw [← one, ← two, ← inOrder, ← swapped, ← twice, ← apart]
  exact ⟨_, _, _, first, second, (parts [source] [fork]).2.1 _ _ _ first second whole, whole,
    reordered _ (.swap fork source []), repeated [] source [source, fork] rfl List.mem_cons_self,
    split [source] fork [] _ _ [flat, pointed] rfl forked (.cons left (.cons right .nil))⟩

end Report
end Multipath.Lattice
