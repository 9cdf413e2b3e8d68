import Mathlib.Data.List.Forall2
import Multipath.Lattice
import Multipath.Proofs.Except
import Multipath.Proofs.Text

/-! The lattice block of a report as a list of lines. What stands before the first marker decides
only the numbers of the lines behind it, and each line of the block is read on its own. What comes
of a report depends on nothing but its lines, without the blanks at their ends. -/
namespace Multipath.Lattice

def numberFrom : Nat → List (List Char) → List (Nat × List Char)
  | _, [] => []
  | n, line :: lines => (n, line) :: numberFrom (n + 1) lines

theorem numbered_eq_numberFrom (n : Nat) (lines : List (List Char)) :
    (lines.zipIdx n).map (fun (line, index) => (index + 1, Text.trim line)) =
      numberFrom (n + 1) (lines.map Text.trim) := by
  induction lines generalizing n with
  | nil => rfl
  | cons line lines ih => rw [List.zipIdx_cons, List.map_cons, ih, List.map_cons, numberFrom]

theorem map_snd_numberFrom (n : Nat) (lines : List (List Char)) :
    (numberFrom n lines).map Prod.snd = lines := by
  induction lines generalizing n with
  | nil => rfl
  | cons line lines ih => rw [numberFrom, List.map_cons, ih]

theorem takeWhile_numberFrom (n : Nat) (lines : List (List Char)) :
    (numberFrom n lines).takeWhile (fun line => line.2 ≠ []) =
      numberFrom n (lines.takeWhile (· ≠ [])) := by
  induction lines generalizing n with
  | nil => rfl
  | cons line lines ih =>
    have later := ih (n + 1)
    by_cases blank : line = [] <;> simp_all [numberFrom]

theorem dropWhile_numberFrom (n : Nat) (before after : List (List Char)) (h : marker ∉ before) :
    (numberFrom n (before ++ marker :: after)).dropWhile (fun line => line.2 ≠ marker) =
      (n + before.length, marker) :: numberFrom (n + before.length + 1) after := by
  induction before generalizing n with
  | nil => simp [numberFrom]
  | cons line before ih =>
    have notMarker : line ≠ marker := fun isMarker => h (isMarker ▸ List.mem_cons_self)
    have later := ih (n + 1) fun member => h (List.mem_cons_of_mem _ member)
    rw [List.cons_append, numberFrom, List.dropWhile_cons_of_pos (by simpa using notMarker), later,
      List.length_cons]
    congr 2
    · omega
    · omega

theorem block?_eq_some {report : List Char} {before after : List (List Char)}
    (lines : (Text.lines report).map Text.trim = before ++ marker :: after)
    (first : marker ∉ before) :
    block? report = some (numberFrom (before.length + 2) (after.takeWhile (· ≠ []))) := by
  have number : 0 + 1 + before.length + 1 = before.length + 2 := by omega
  rw [block?, numbered_eq_numberFrom, lines, dropWhile_numberFrom _ before after first, number,
    ← takeWhile_numberFrom]

theorem decide_ne_marker {lines : List (List Char)} (unmarked : marker ∉ lines) :
    ∀ line ∈ lines, decide (line ≠ marker) = true := by
  intro line member
  have apart : line ≠ marker := fun isMarker => unmarked (isMarker ▸ member)
  simpa using apart

theorem block?_eq_none {report : List Char}
    (unmarked : marker ∉ (Text.lines report).map Text.trim) :
    block? report = none := by
  have dropped : (numberFrom (0 + 1) ((Text.lines report).map Text.trim)).dropWhile
      (fun line => line.2 ≠ marker) = [] := by
    refine List.dropWhile_eq_nil_iff.mpr fun line member => ?_
    have among : line.2 ∈ (Text.lines report).map Text.trim := by
      rw [← map_snd_numberFrom (0 + 1) ((Text.lines report).map Text.trim)]
      exact List.mem_map_of_mem member
    exact decide_ne_marker unmarked line.2 among
  rw [block?, numbered_eq_numberFrom, dropped]

section Records

variable {destination : String} {number : Nat} {line : List Char} {rest : List (Nat × List Char)}

theorem readRecords_malformed (bad : Record.ofTokens? destination (tokens line) = none) :
    readRecords destination ((number, line) :: rest) =
      .error (.malformedRecord number (String.ofList line)) := by
  rw [readRecords, bad]

theorem readRecords_record {record : Record}
    (read : Record.ofTokens? destination (tokens line) = some record) :
    readRecords destination ((number, line) :: rest) =
      (readRecords destination rest).map (record :: ·) := by
  rw [readRecords, read]

/-- Where lines are accepted, the first is a record and those behind it are accepted. -/
theorem exists_of_readRecords_cons {records : List Record}
    (read : readRecords destination ((number, line) :: rest) = .ok records) :
    ∃ record later, Record.ofTokens? destination (tokens line) = some record ∧
      readRecords destination rest = .ok later ∧ records = record :: later := by
  cases found : Record.ofTokens? destination (tokens line) with
  | none =>
    rw [readRecords_malformed found] at read
    contradiction
  | some record =>
    rw [readRecords_record found] at read
    obtain ⟨later, readLater, whole⟩ := exists_of_map_eq_ok read
    exact ⟨record, later, rfl, readLater, whole.symm⟩

end Records

theorem readRecords_eq_ok {destination : String} {lines : List (List Char)} {records : List Record}
    (h : List.Forall₂ (fun line record => Record.ofTokens? destination (tokens line) = some record)
      lines records) (n : Nat) :
    readRecords destination (numberFrom n lines) = .ok records := by
  induction h generalizing n with
  | nil => rfl
  | cons read _ ih =>
    rw [numberFrom, readRecords_record read, ih]
    rfl

def readBlock (destination : String) (n : Nat) (lines : List (List Char)) :
    Except Lattice.Error Topology :=
  (readRecords destination (numberFrom n lines)).map fun records =>
    Topology.ofEdges (records.flatMap Record.edges)

def parseLines (destination : String) (lines : List (List Char)) : Except Lattice.Error Topology :=
  match lines.dropWhile (· ≠ marker) with
  | [] => .error .markerNotFound
  | _ :: after =>
    readBlock destination ((lines.takeWhile (· ≠ marker)).length + 2) (after.takeWhile (· ≠ []))

section Lines

variable {destination : String} {lines before after : List (List Char)}

theorem parseLines_unmarked (unmarked : marker ∉ lines) :
    parseLines destination lines = .error .markerNotFound := by
  rw [parseLines, List.dropWhile_eq_nil_iff.mpr (decide_ne_marker unmarked)]

theorem parseLines_marked (unmarked : marker ∉ before) (after : List (List Char)) :
    parseLines destination (before ++ marker :: after) =
      readBlock destination (before.length + 2) (after.takeWhile (· ≠ [])) := by
  have others := decide_ne_marker unmarked
  rw [parseLines, List.dropWhile_append_of_pos others, List.takeWhile_append_of_pos others]
  simp

theorem parse_eq_parseLines (report destination : String) :
    parse report destination =
      parseLines destination ((Text.lines report.toList).map Text.trim) := by
  by_cases marked : marker ∈ (Text.lines report.toList).map Text.trim
  · obtain ⟨before, after, split, unmarked⟩ := List.eq_append_cons_of_mem marked
    rw [parse, block?_eq_some split unmarked, split, parseLines_marked unmarked]
    rfl
  · rw [parse, block?_eq_none marked, parseLines_unmarked marked]

end Lines

/-- The lines of a report around its lattice: those before the first marker, the marker, the block
that ends with the last line or before a blank one, and the rest. -/
structure Framed (lines before : List (List Char)) (opening : List Char)
    (block after : List (List Char)) : Prop where
  whole : lines = before ++ opening :: (block ++ after)
  unmarked : ∀ line ∈ before, Text.trim line ≠ marker
  opens : Text.trim opening = marker
  full : ∀ line ∈ block, Text.trim line ≠ []
  closes : ∀ line ∈ after.head?, Text.trim line = []

section Framed

variable {lines before block after : List (List Char)} {opening : List Char}

/-- A report that has a marker has a lattice. -/
theorem exists_framed (marked : ∃ line ∈ lines, Text.trim line = marker) :
    ∃ before opening block after, Framed lines before opening block after := by
  obtain ⟨found, member, opens⟩ := marked
  have stops := List.head?_dropWhile_not (fun line => Text.trim line ≠ marker) lines
  cases behind : lines.dropWhile (fun line => Text.trim line ≠ marker) with
  | nil =>
    have other := List.dropWhile_eq_nil_iff.mp behind found member
    simp [opens] at other
  | cons opening rest =>
    rw [behind] at stops
    refine ⟨lines.takeWhile fun line => Text.trim line ≠ marker, opening,
      rest.takeWhile fun line => Text.trim line ≠ [], rest.dropWhile fun line => Text.trim line ≠ [],
      ?_, ?_, by simpa using stops, ?_, ?_⟩
    · rw [List.takeWhile_append_dropWhile, ← behind, List.takeWhile_append_dropWhile]
    · intro line early
      simpa using List.mem_takeWhile_imp early
    · intro line inside
      simpa using List.mem_takeWhile_imp inside
    · intro line first
      have blank := List.head?_dropWhile_not (fun line => Text.trim line ≠ []) rest
      rw [first] at blank
      simpa using blank

theorem parse_unmarked {report : String}
    (unmarked : ∀ line ∈ Text.lines report.toList, Text.trim line ≠ marker) (destination : String) :
    parse report destination = .error .markerNotFound := by
  rw [parse_eq_parseLines]
  apply parseLines_unmarked
  intro member
  obtain ⟨line, among, isMarker⟩ := List.mem_map.mp member
  exact unmarked line among isMarker

/-- Only the block of a report is read. What stands before it counts its lines. -/
theorem parse_framed {report : String}
    (framed : Framed (Text.lines report.toList) before opening block after) (destination : String) :
    parse report destination =
      readBlock destination (before.length + 2) (block.map Text.trim) := by
  have unmarked : marker ∉ before.map Text.trim := by
    intro member
    obtain ⟨line, early, isMarker⟩ := List.mem_map.mp member
    exact framed.unmarked line early isMarker
  have full : ∀ line ∈ block.map Text.trim, decide (line ≠ []) = true := by
    intro line member
    obtain ⟨inner, inside, rfl⟩ := List.mem_map.mp member
    simpa using framed.full inner inside
  have closed : (after.map Text.trim).takeWhile (· ≠ []) = [] := by
    cases after with
    | nil => rfl
    | cons line after => simp [framed.closes line rfl]
  rw [parse_eq_parseLines, framed.whole, List.map_append, List.map_cons, framed.opens,
    parseLines_marked unmarked, List.map_append, List.takeWhile_append_of_pos full, closed,
    List.append_nil, List.length_map]

end Framed
end Multipath.Lattice
