import Multipath.Proofs.Lattice.Block

/-! Which reports have no readable lattice. Without a marker there is none. With one, every line of
the block has to be a record, and the error tells of the first line that is not, under its number
in the whole report. -/
namespace Multipath.Lattice

/-- Tokens that make no record: there are none, the arrow comes first, there is a second arrow, or
the arrow leads nowhere. -/
def IsMalformed (tokens : List (List Char)) : Prop :=
  tokens = [] ∨ tokens.head? = some arrow ∨ 1 < tokens.count arrow ∨
    arrow ∈ tokens ∧ ∀ token ∈ tokens.tail, token = arrow

instance : DecidablePred IsMalformed := fun _ =>
  inferInstanceAs (Decidable (_ ∨ _ ∨ _ ∨ _ ∧ _))

theorem ofTokens?_eq_none_iff {destination : String} {tokens : List (List Char)} :
    Record.ofTokens? destination tokens = none ↔ IsMalformed tokens := by
  cases tokens with
  | nil => simp [Record.ofTokens?, IsMalformed]
  | cons parent rest =>
    by_cases first : parent = arrow
    · simp [Record.ofTokens?, IsMalformed, first]
    · have later : arrow ≠ parent := Ne.symm first
      have noChild : rest.filter (· ≠ arrow) = [] ↔ ∀ token ∈ rest, token = arrow := by
        simp [List.filter_eq_nil_iff]
      simp only [Record.ofTokens?, ite_eq_left_iff, reduceCtorEq, imp_false, not_not]
      rw [IsMalformed, noChild, List.count_cons_of_ne first, List.mem_cons]
      simp [first, later]

theorem tokens_trim (line : List Char) : tokens (Text.trim line) = tokens line := by
  rw [tokens, Text.words_trim, tokens]

theorem not_isMalformed_of_read {destination : String} {line : List Char} {record : Record}
    (read : Record.ofTokens? destination (tokens (Text.trim line)) = some record) :
    ¬IsMalformed (tokens line) := by
  intro malformed
  rw [tokens_trim, ofTokens?_eq_none_iff.mpr malformed] at read
  contradiction

/-- The first malformed one of some lines is the first line, or it is the first malformed one
behind it. -/
theorem exists_first_cons_iff {P : List Char → Prop} {Q : List (List Char) → List Char → Prop}
    {line : List Char} {lines : List (List Char)} :
    (∃ good bad rest, line :: lines = good ++ bad :: rest ∧
        (∀ other ∈ good, ¬P other) ∧ P bad ∧ Q good bad) ↔
      P line ∧ Q [] line ∨ ¬P line ∧ ∃ good bad rest, lines = good ++ bad :: rest ∧
        (∀ other ∈ good, ¬P other) ∧ P bad ∧ Q (line :: good) bad := by
  constructor
  · rintro ⟨_ | ⟨first, good⟩, bad, rest, split, sound, malformed, told⟩
    · obtain ⟨rfl, -⟩ := List.cons.inj split
      exact .inl ⟨malformed, told⟩
    · obtain ⟨rfl, behind⟩ := List.cons.inj split
      obtain ⟨wellFormed, sound⟩ := List.forall_mem_cons.mp sound
      exact .inr ⟨wellFormed, good, bad, rest, behind, sound, malformed, told⟩
  · rintro (⟨malformed, told⟩ | ⟨wellFormed, good, bad, rest, rfl, sound, malformed, told⟩)
    · exact ⟨[], line, lines, rfl, by simp, malformed, told⟩
    · refine ⟨line :: good, bad, rest, rfl, ?_, malformed, told⟩
      exact List.forall_mem_cons.mpr ⟨wellFormed, sound⟩

section Block

variable {destination : String} {n : Nat} {lines : List (List Char)} {e : Lattice.Error}

/-- The first malformed line ends the reading, and nothing else does. -/
theorem readRecords_eq_error_iff :
    readRecords destination (numberFrom n (lines.map Text.trim)) = .error e ↔
      ∃ good bad rest, lines = good ++ bad :: rest ∧
        (∀ line ∈ good, ¬IsMalformed (tokens line)) ∧ IsMalformed (tokens bad) ∧
        e = .malformedRecord (n + good.length) (String.ofList (Text.trim bad)) := by
  induction lines generalizing n with
  | nil => simp [numberFrom, readRecords]
  | cons line lines ih =>
    rw [List.map_cons, numberFrom, exists_first_cons_iff]
    cases read : Record.ofTokens? destination (tokens (Text.trim line)) with
    | none =>
      have malformed : IsMalformed (tokens line) := by
        rwa [ofTokens?_eq_none_iff, tokens_trim] at read
      rw [readRecords_malformed read]
      simp [malformed, eq_comm]
    | some record =>
      have wellFormed := not_isMalformed_of_read read
      have next (good : List (List Char)) : n + (line :: good).length = n + 1 + good.length := by
        rw [List.length_cons]
        omega
      rw [readRecords_record read, map_eq_error_iff, ih]
      simp only [wellFormed, next, not_false_eq_true, true_and, false_and, false_or]

/-- A block is accepted if none of its lines is malformed. -/
theorem readRecords_isOk_iff :
    (∃ records, readRecords destination (numberFrom n (lines.map Text.trim)) = .ok records) ↔
      ∀ line ∈ lines, ¬IsMalformed (tokens line) := by
  induction lines generalizing n with
  | nil => simp [numberFrom, readRecords]
  | cons line lines ih =>
    rw [List.map_cons, numberFrom, List.forall_mem_cons]
    cases read : Record.ofTokens? destination (tokens (Text.trim line)) with
    | none =>
      have malformed : IsMalformed (tokens line) := by
        rwa [ofTokens?_eq_none_iff, tokens_trim] at read
      simp [readRecords_malformed read, malformed]
    | some record =>
      have wellFormed := not_isMalformed_of_read read
      rw [readRecords_record read, isOk_map_iff, ih]
      simp [wellFormed]

end Block

section Report

variable {report destination : String} {before block after : List (List Char)}
  {opening : List Char} {e : Lattice.Error}

theorem parse_framed_eq_error_iff
    (framed : Framed (Text.lines report.toList) before opening block after) :
    parse report destination = .error e ↔
      ∃ good bad rest, block = good ++ bad :: rest ∧
        (∀ line ∈ good, ¬IsMalformed (tokens line)) ∧ IsMalformed (tokens bad) ∧
        e = .malformedRecord (before.length + 2 + good.length) (String.ofList (Text.trim bad)) := by
  rw [parse_framed framed, readBlock, map_eq_error_iff, readRecords_eq_error_iff]

theorem parse_framed_isOk_iff
    (framed : Framed (Text.lines report.toList) before opening block after) :
    (∃ t, parse report destination = .ok t) ↔ ∀ line ∈ block, ¬IsMalformed (tokens line) := by
  rw [parse_framed framed, readBlock, isOk_map_iff, readRecords_isOk_iff]

/-- A report is either unmarked, which is one error, or it has a lattice. -/
theorem unmarked_or_framed (report : String) :
    (∀ line ∈ Text.lines report.toList, Text.trim line ≠ marker) ∨
      ∃ before opening block after,
        Framed (Text.lines report.toList) before opening block after := by
  by_cases marked : ∃ line ∈ Text.lines report.toList, Text.trim line = marker
  · exact .inr (exists_framed marked)
  · push Not at marked
    exact .inl marked

/-- Whatever is not found to be unmarked has a lattice. -/
theorem exists_framed_of_parse_ne (other : parse report destination ≠ .error .markerNotFound) :
    ∃ before opening block after, Framed (Text.lines report.toList) before opening block after := by
  rcases unmarked_or_framed report with unmarked | framed
  · exact absurd (parse_unmarked unmarked destination) other
  · exact framed

theorem parse_eq_markerNotFound_iff :
    parse report destination = .error .markerNotFound ↔
      ∀ line ∈ Text.lines report.toList, Text.trim line ≠ marker := by
  refine ⟨fun rejected => ?_, fun unmarked => parse_unmarked unmarked destination⟩
  rcases unmarked_or_framed report with unmarked | ⟨before, opening, block, after, framed⟩
  · exact unmarked
  · obtain ⟨good, bad, rest, -, -, -, told⟩ := (parse_framed_eq_error_iff framed).mp rejected
    contradiction

theorem parse_eq_malformedRecord_iff {number : Nat} {content : String} :
    parse report destination = .error (.malformedRecord number content) ↔
      ∃ before opening good bad rest after,
        Framed (Text.lines report.toList) before opening (good ++ bad :: rest) after ∧
        (∀ line ∈ good, ¬IsMalformed (tokens line)) ∧ IsMalformed (tokens bad) ∧
        number = (before ++ opening :: good).length + 1 ∧
        content = String.ofList (Text.trim bad) := by
  -- The number of a line, by what stands before the block and by all that stands before the line.
  have count (before good : List (List Char)) (opening : List Char) :
      before.length + 2 + good.length = (before ++ opening :: good).length + 1 := by
    rw [List.length_append, List.length_cons]
    omega
  constructor
  · intro rejected
    obtain ⟨before, opening, block, after, framed⟩ :=
      exists_framed_of_parse_ne (by simp [rejected] : parse report destination ≠ _)
    obtain ⟨good, bad, rest, rfl, sound, malformed, told⟩ :=
      (parse_framed_eq_error_iff framed).mp rejected
    obtain ⟨rfl, rfl⟩ := Lattice.Error.malformedRecord.inj told
    exact ⟨before, opening, good, bad, rest, after, framed, sound, malformed, count .., rfl⟩
  · rintro ⟨before, opening, good, bad, rest, after, framed, sound, malformed, rfl, rfl⟩
    rw [parse_framed_eq_error_iff framed, ← count]
    exact ⟨good, bad, rest, rfl, sound, malformed, rfl⟩

theorem parse_isOk_iff :
    (∃ t, parse report destination = .ok t) ↔
      ∃ before opening block after, Framed (Text.lines report.toList) before opening block after ∧
        ∀ line ∈ block, ¬IsMalformed (tokens line) := by
  constructor
  · rintro ⟨t, accepted⟩
    obtain ⟨before, opening, block, after, framed⟩ :=
      exists_framed_of_parse_ne (by simp [accepted] : parse report destination ≠ _)
    exact ⟨before, opening, block, after, framed, (parse_framed_isOk_iff framed).mp ⟨t, accepted⟩⟩
  · rintro ⟨before, opening, block, after, framed, sound⟩
    exact (parse_framed_isOk_iff framed).mpr sound

/-- What a report is rejected for, and what it is accepted for. It is unmarked if no line holds the
marker alone. Otherwise its lattice is the block behind the first marker. The first malformed line
of the block is told with its number in the report and without the blanks at its ends; if there is
none, the report is accepted. -/
theorem parse_rejects_exactly (report destination : String) :
    let lines := Text.lines report.toList
    (parse report destination = .error .markerNotFound ↔
      ∀ line ∈ lines, Text.trim line ≠ "Lattice:".toList) ∧
    (∀ number content, parse report destination = .error (.malformedRecord number content) ↔
      ∃ before opening good bad rest after,
        Framed lines before opening (good ++ bad :: rest) after ∧
        (∀ line ∈ good, ¬IsMalformed (tokens line)) ∧ IsMalformed (tokens bad) ∧
        number = (before ++ opening :: good).length + 1 ∧
        content = String.ofList (Text.trim bad)) ∧
    ((∃ t, parse report destination = .ok t) ↔
      ∃ before opening block after, Framed lines before opening block after ∧
        ∀ line ∈ block, ¬IsMalformed (tokens line)) := by
  refine ⟨parse_eq_markerNotFound_iff, ?_, parse_isOk_iff⟩
  intro number content
  exact parse_eq_malformedRecord_iff

-- The punctuation is stripped off, so that the arrow of the fourth line leads nowhere.
example : parse "to 10.0.9.9\n Lattice:\r\nNone -> [ 10.0.0.1 ]\n[10.0.0.1] ->, []\n" "10.0.9.9" =
    .error (.malformedRecord 4 "[10.0.0.1] ->, []") := rfl

end Report
end Multipath.Lattice
