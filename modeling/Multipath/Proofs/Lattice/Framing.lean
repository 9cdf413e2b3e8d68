import Multipath.Proofs.Lattice.Malformed

/-! What a report may be changed in without another lattice being read from it. Lines before it
count in the number of a malformed line, and nothing behind the block counts. Blanks at the ends of
lines and carriage returns do not count either, nor does the dress of the words of the block: the
blanks between them and the punctuation around and beside them. -/
namespace Multipath.Lattice

def Error.shift (added : Nat) : Lattice.Error → Lattice.Error
  | .markerNotFound => .markerNotFound
  | .malformedRecord line content => .malformedRecord (line + added) content

def Error.line? : Lattice.Error → Option Nat
  | .markerNotFound => none
  | .malformedRecord line _ => some line

/-- A line with blanks put to its ends. Those at its right may stand before blanks that end it
already, such as a carriage return. -/
def IsPadded (line other : List Char) : Prop :=
  ∃ left text right ending, (∀ c ∈ left ++ right ++ ending, Text.isBlank c = true) ∧
    line = text ++ ending ∧ other = left ++ text ++ right ++ ending

/-- Words in another dress. Any word may be wrapped in punctuation, and words that are nothing but
punctuation may be put in. -/
inductive Redressed : List (List Char) → List (List Char) → Prop where
  | nil : Redressed [] []
  | wrapped {left right word : List Char} {words others : List (List Char)} :
    (∀ c ∈ left ++ right, isSeparator c = true) → Redressed words others →
      Redressed (word :: words) ((left ++ word ++ right) :: others)
  | added {punctuation : List Char} {words others : List (List Char)} :
    (∀ c ∈ punctuation, isSeparator c = true) → Redressed words others →
      Redressed words (punctuation :: others)

section Words

variable {words others : List (List Char)} {line other : List Char}

theorem strip_wrapped {left right : List Char} (word : List Char)
    (separators : ∀ c ∈ left ++ right, isSeparator c = true) :
    Text.strip isSeparator (left ++ word ++ right) = Text.strip isSeparator word := by
  obtain ⟨before, after⟩ := List.forall_mem_append.mp separators
  rw [Text.strip_append_right after, Text.strip_append_left before]

theorem Redressed.ne_nil (dress : Redressed words others) (nonempty : words ≠ []) :
    others ≠ [] := by
  cases dress with
  | nil => contradiction
  | wrapped | added => simp

/-- The dress of words is stripped off. -/
theorem Redressed.stripped (dress : Redressed words others) :
    (others.map (Text.strip isSeparator)).filter (fun token => !token.isEmpty) =
      (words.map (Text.strip isSeparator)).filter fun token => !token.isEmpty := by
  induction dress with
  | nil => rfl
  | wrapped separators _ ih =>
    rw [List.map_cons, List.map_cons, strip_wrapped _ separators, List.filter_cons,
      List.filter_cons, ih]
  | added separators _ ih => simp [Text.strip_of_all separators, ih]

theorem tokens_redressed (dress : Redressed (Text.words line) (Text.words other)) :
    tokens other = tokens line := by
  rw [tokens, dress.stripped, tokens]

theorem full_redressed (dress : Redressed (Text.words line) (Text.words other))
    (full : Text.trim line ≠ []) : Text.trim other ≠ [] := by
  rw [Ne, Text.trim_eq_nil_iff] at full ⊢
  exact dress.ne_nil full

theorem full_block_redressed {block block' : List (List Char)}
    (dress : List.Forall₂ (fun line line' => Redressed (Text.words line) (Text.words line'))
      block block')
    (full : ∀ line ∈ block, Text.trim line ≠ []) : ∀ line ∈ block', Text.trim line ≠ [] := by
  induction dress with
  | nil => exact full
  | cons first _ ih =>
    obtain ⟨fullLine, later⟩ := List.forall_mem_cons.mp full
    exact List.forall_mem_cons.mpr ⟨full_redressed first fullLine, ih later⟩

end Words

section Numbers

variable {destination : String} {n : Nat} {lines others : List (List Char)}

theorem readRecords_shift (added : Nat) :
    readRecords destination (numberFrom (n + added) lines) =
      (readRecords destination (numberFrom n lines)).mapError (Error.shift added) := by
  induction lines generalizing n with
  | nil => rfl
  | cons line lines ih =>
    rw [numberFrom, numberFrom]
    cases read : Record.ofTokens? destination (tokens line) with
    | none =>
      rw [readRecords_malformed read, readRecords_malformed read]
      rfl
    | some record =>
      rw [readRecords_record read, readRecords_record read, Nat.add_right_comm, ih, mapError_map]

theorem readBlock_shift (added : Nat) :
    readBlock destination (n + added) lines =
      (readBlock destination n lines).mapError (Error.shift added) := by
  rw [readBlock, readRecords_shift, readBlock, mapError_map]

/-- Lines with the same tokens are read alike, but for the content of a malformed one. -/
theorem readRecords_line?
    (sameTokens : List.Forall₂ (fun line other => tokens other = tokens line) lines others) :
    (readRecords destination (numberFrom n others)).mapError Error.line? =
      (readRecords destination (numberFrom n lines)).mapError Error.line? := by
  induction sameTokens generalizing n with
  | nil => rfl
  | cons equal _ ih =>
    rename_i line other lines others
    rw [numberFrom, numberFrom]
    cases read : Record.ofTokens? destination (tokens line) with
    | none =>
      rw [readRecords_malformed read, readRecords_malformed (equal ▸ read)]
      rfl
    | some record =>
      rw [readRecords_record read, readRecords_record (equal ▸ read), mapError_map, ih,
        mapError_map]

theorem readBlock_line?
    (sameTokens : List.Forall₂ (fun line other => tokens other = tokens line) lines others) :
    (readBlock destination n others).mapError Error.line? =
      (readBlock destination n lines).mapError Error.line? := by
  rw [readBlock, readBlock, mapError_map, readRecords_line? sameTokens, mapError_map]

end Numbers

section Lines

variable {destination : String} {lines : List (List Char)}

theorem takeWhile_append_blank (lines rest : List (List Char)) :
    (lines ++ [] :: rest).takeWhile (· ≠ []) = lines.takeWhile (· ≠ []) := by
  induction lines with
  | nil => simp
  | cons line lines ih => by_cases blank : line = [] <;> simp_all

/-- Behind a blank line that follows the marker nothing counts. -/
theorem parseLines_append_blank (marked : marker ∈ lines) (rest : List (List Char)) :
    parseLines destination (lines ++ [] :: rest) = parseLines destination lines := by
  obtain ⟨before, after, rfl, unmarked⟩ := List.eq_append_cons_of_mem marked
  rw [List.append_assoc, List.cons_append, parseLines_marked unmarked, parseLines_marked unmarked,
    takeWhile_append_blank]

/-- A blank line at the end does not count, be there a marker or not. -/
theorem parseLines_append_nil (lines : List (List Char)) :
    parseLines destination (lines ++ [[]]) = parseLines destination lines := by
  by_cases marked : marker ∈ lines
  · exact parseLines_append_blank marked []
  · have still : marker ∉ lines ++ [[]] := by
      have full : marker ≠ [] := by decide
      simp [marked, full]
    rw [parseLines_unmarked marked, parseLines_unmarked still]

theorem parseLines_append {added : List (List Char)} (unmarked : marker ∉ added) :
    parseLines destination (added ++ lines) =
      (parseLines destination lines).mapError (Error.shift added.length) := by
  by_cases marked : marker ∈ lines
  · obtain ⟨before, after, rfl, first⟩ := List.eq_append_cons_of_mem marked
    have nowhere : marker ∉ added ++ before := by simp [unmarked, first]
    have number : before.length + 2 + added.length = (added ++ before).length + 2 := by
      rw [List.length_append]
      omega
    rw [← List.append_assoc, parseLines_marked nowhere, parseLines_marked first, ← number,
      readBlock_shift]
  · have nowhere : marker ∉ added ++ lines := by simp [unmarked, marked]
    rw [parseLines_unmarked marked, parseLines_unmarked nowhere]
    rfl

end Lines

section Report

variable {report other destination : String}

/-- The pieces between the line feeds of a report, without the blanks at their ends. -/
def pieces (report : String) : List (List Char) := (report.toList.splitOn '\n').map Text.trim

/-- A report may be read by its pieces as well as by its lines. -/
theorem parse_eq_pieces (report destination : String) :
    parse report destination = parseLines destination (pieces report) := by
  rw [parse_eq_parseLines, pieces]
  rcases Text.map_trim_splitOn report.toList with asLines | withLast
  · rw [asLines]
  · rw [withLast, parseLines_append_nil]

theorem marker_mem_pieces (marked : ∃ line ∈ Text.lines report.toList, Text.trim line = marker) :
    marker ∈ pieces report := by
  obtain ⟨line, member, opens⟩ := marked
  have among : marker ∈ (Text.lines report.toList).map Text.trim :=
    opens ▸ List.mem_map_of_mem member
  rw [pieces]
  rcases Text.map_trim_splitOn report.toList with asLines | withLast
  · rwa [asLines]
  · rw [withLast]
    exact List.mem_append_left _ among

theorem pieces_append_feed (report other : String) :
    pieces (report ++ "\n" ++ other) = pieces report ++ pieces other := by
  have shape : (report ++ "\n" ++ other).toList = report.toList ++ '\n' :: other.toList := by simp
  rw [pieces, shape, Text.splitOn_append_feed, List.map_append, pieces, pieces]

/-- A text that begins with a blank line has a first piece that is empty. -/
theorem pieces_blank {blank rest : String}
    (blanks : ∀ c ∈ blank.toList, Text.isBlank c = true ∧ c ≠ '\n')
    (ended : rest = "" ∨ ∃ text, rest = "\n" ++ text) :
    ∃ others, pieces (blank ++ rest) = [] :: others := by
  have unbroken : '\n' ∉ blank.toList := fun member => (blanks _ member).2 rfl
  have trimmed : Text.trim blank.toList = [] :=
    Text.strip_of_all fun c member => (blanks c member).1
  have alone : pieces blank = [[]] := by
    rw [pieces, List.splitOn_eq_singleton unbroken, List.map_singleton, trimmed]
  rcases ended with rfl | ⟨text, rfl⟩
  · exact ⟨[], by simpa using alone⟩
  · refine ⟨pieces text, ?_⟩
    rw [← String.append_assoc, pieces_append_feed, alone, List.singleton_append]

theorem pieces_written {written : List String} (unbroken : ∀ line ∈ written, '\n' ∉ line.toList)
    (rest : String) :
    pieces (String.join (written.map (· ++ "\n")) ++ rest) =
      written.map (fun line => Text.trim line.toList) ++ pieces rest := by
  rw [pieces, Text.splitOn_joined unbroken, List.map_append, List.map_map, pieces]
  rfl

theorem parse_added {added : List String}
    (unmarked : ∀ line ∈ added, '\n' ∉ line.toList ∧ Text.trim line.toList ≠ marker) :
    parse (String.join (added.map (· ++ "\n")) ++ report) destination =
      (parse report destination).mapError (Error.shift added.length) := by
  have unmarkedAdded : marker ∉ added.map fun line => Text.trim line.toList := by
    intro member
    obtain ⟨line, among, isMarker⟩ := List.mem_map.mp member
    exact (unmarked line among).2 isMarker
  rw [parse_eq_pieces, pieces_written fun line among => (unmarked line among).1,
    parseLines_append unmarkedAdded, List.length_map, parse_eq_pieces]

theorem parse_behind_blank {blank rest : String} (marked : marker ∈ pieces report)
    (blanks : ∀ c ∈ blank.toList, Text.isBlank c = true ∧ c ≠ '\n')
    (ended : rest = "" ∨ ∃ text, rest = "\n" ++ text) :
    parse (report ++ "\n" ++ blank ++ rest) destination = parse report destination := by
  obtain ⟨others, first⟩ := pieces_blank blanks ended
  rw [parse_eq_pieces, String.append_assoc, pieces_append_feed, first,
    parseLines_append_blank marked, parse_eq_pieces]

theorem pieces_closed (report : String) : pieces (report ++ "\n") = pieces report ++ [[]] := by
  have whole := pieces_append_feed report ""
  rwa [String.append_empty] at whole

/-- A line feed that the report ends with is as good as one that is put behind it. -/
theorem parse_closed_behind_blank {blank rest : String} (marked : marker ∈ pieces (report ++ "\n"))
    (blanks : ∀ c ∈ blank.toList, Text.isBlank c = true ∧ c ≠ '\n')
    (ended : rest = "" ∨ ∃ text, rest = "\n" ++ text) :
    parse (report ++ "\n" ++ blank ++ rest) destination = parse (report ++ "\n") destination := by
  have inReport : marker ∈ pieces report := by
    have full : marker ≠ [] := by decide
    simpa [pieces_closed, full] using marked
  have closed : parse (report ++ "\n") destination = parse report destination := by
    rw [parse_eq_pieces, pieces_closed, parseLines_append_nil, parse_eq_pieces]
  rw [parse_behind_blank inReport blanks ended, closed]

theorem parse_of_pieces (samePieces : pieces other = pieces report) :
    parse other destination = parse report destination := by
  rw [parse_eq_pieces, samePieces, parse_eq_pieces]

def returning (row : String × Bool) : String := if row.2 then row.1 ++ "\r" else row.1

theorem pieces_returns {rows : List (String × Bool)} (unbroken : ∀ row ∈ rows, '\n' ∉ row.1.toList)
    (last : String) :
    pieces (String.join ((rows.map returning).map (· ++ "\n")) ++ last) =
      pieces (String.join ((rows.map Prod.fst).map (· ++ "\n")) ++ last) := by
  have trimmed (row : String × Bool) :
      Text.trim (returning row).toList = Text.trim row.1.toList := by
    unfold returning
    split
    · rw [String.toList_append]
      exact Text.strip_append_right (by simp [Text.isBlank_return])
    · rfl
  have lines : ∀ line ∈ rows.map Prod.fst, '\n' ∉ line.toList := by
    intro line member
    obtain ⟨row, among, rfl⟩ := List.mem_map.mp member
    exact unbroken row among
  have returned : ∀ line ∈ rows.map returning, '\n' ∉ line.toList := by
    intro line member
    obtain ⟨row, among, rfl⟩ := List.mem_map.mp member
    have unbrokenRow := unbroken row among
    unfold returning
    split <;> simp [unbrokenRow]
  rw [pieces_written returned, pieces_written lines, List.map_map, List.map_map]
  congr 1
  exact List.map_congr_left fun row _ => trimmed row

/-- A carriage return in front of a line feed is not read. -/
theorem parse_returns {rows : List (String × Bool)} (unbroken : ∀ row ∈ rows, '\n' ∉ row.1.toList)
    (last : String) :
    parse (String.join (rows.map fun row => row.1 ++ if row.2 then "\r\n" else "\n") ++ last)
        destination =
      parse (String.join (rows.map fun row => row.1 ++ "\n") ++ last) destination := by
  have written : (rows.map fun row => row.1 ++ if row.2 then "\r\n" else "\n") =
      (rows.map returning).map (· ++ "\n") := by
    rw [List.map_map]
    refine List.map_congr_left fun row _ => ?_
    rcases row with ⟨line, _ | _⟩
    · rfl
    · show line ++ ("\r" ++ "\n") = line ++ "\r" ++ "\n"
      exact String.append_assoc.symm
  have plain : (rows.map fun row => row.1 ++ "\n") = (rows.map Prod.fst).map (· ++ "\n") := by
    rw [List.map_map]
    rfl
  rw [written, plain]
  exact parse_of_pieces (pieces_returns unbroken last)

theorem trim_of_isPadded {line other : List Char} (padded : IsPadded line other) :
    Text.trim other = Text.trim line := by
  obtain ⟨left, text, right, ending, padding, rfl, rfl⟩ := padded
  obtain ⟨around, ends⟩ := List.forall_mem_append.mp padding
  obtain ⟨before, after⟩ := List.forall_mem_append.mp around
  have kept : Text.trim (text ++ ending) = Text.trim text := Text.strip_append_right ends
  have stripped : Text.trim (left ++ text ++ right ++ ending) = Text.trim (left ++ text ++ right) :=
    Text.strip_append_right ends
  rw [stripped, kept, Text.trim_padded _ before after]

theorem map_trim_padded {lines others : List (List Char)}
    (padded : List.Forall₂ IsPadded lines others) :
    others.map Text.trim = lines.map Text.trim := by
  induction padded with
  | nil => rfl
  | cons first _ ih => rw [List.map_cons, List.map_cons, ih, trim_of_isPadded first]

theorem parse_redressed {before block block' after : List (List Char)} {opening : List Char}
    (framed : Framed (Text.lines report.toList) before opening block after)
    (edited : Text.lines other.toList = before ++ opening :: (block' ++ after))
    (dress : List.Forall₂ (fun line line' => Redressed (Text.words line) (Text.words line'))
      block block') :
    (parse other destination).mapError Error.line? =
      (parse report destination).mapError Error.line? := by
  have framed' : Framed (Text.lines other.toList) before opening block' after :=
    ⟨edited, framed.unmarked, framed.opens, full_block_redressed dress framed.full, framed.closes⟩
  have sameTokens : List.Forall₂ (fun line line' => tokens line' = tokens line)
      (block.map Text.trim) (block'.map Text.trim) := by
    rw [List.forall₂_map_left_iff, List.forall₂_map_right_iff]
    refine dress.imp fun line line' redressed => ?_
    rw [tokens_trim, tokens_trim, tokens_redressed redressed]
  rw [parse_framed framed', parse_framed framed, readBlock_line? sameTokens]

/-- What a report may be changed in. Lines that are put before it, none of them the marker, only
count in the number of a malformed line. If it has a marker, nothing counts behind a blank line that
is put behind it. Line feeds may become carriage returns with line feeds, and lines may get blanks
at their ends, be it in front of a carriage return, without any change of the result. In the lines
of the block the blanks between words may be replaced, words may be wrapped in punctuation, and
words that are all punctuation may be added; then the lattice is the same, or the error lies in the
same line. -/
theorem parse_layout_and_framing (destination : String) :
    (∀ (added : List String) (report : String),
      (∀ line ∈ added, '\n' ∉ line.toList ∧ Text.trim line.toList ≠ "Lattice:".toList) →
      parse (String.join (added.map (· ++ "\n")) ++ report) destination =
        (parse report destination).mapError (Error.shift added.length)) ∧
    (∀ report blank rest : String,
      (∃ line ∈ Text.lines report.toList, Text.trim line = "Lattice:".toList) →
      (∀ c ∈ blank.toList, Text.isBlank c = true ∧ c ≠ '\n') →
      (rest = "" ∨ ∃ text, rest = "\n" ++ text) →
      parse (report ++ "\n" ++ blank ++ rest) destination = parse report destination ∧
      ∀ text, report = text ++ "\n" →
        parse (report ++ blank ++ rest) destination = parse report destination) ∧
    (∀ (rows : List (String × Bool)) (last : String), (∀ row ∈ rows, '\n' ∉ row.1.toList) →
      parse (String.join (rows.map fun row => row.1 ++ if row.2 then "\r\n" else "\n") ++ last)
          destination =
        parse (String.join (rows.map fun row => row.1 ++ "\n") ++ last) destination) ∧
    (∀ report other : String,
      List.Forall₂ IsPadded (report.toList.splitOn '\n') (other.toList.splitOn '\n') →
      parse other destination = parse report destination) ∧
    ∀ (report other : String) before opening block block' after,
      Framed (Text.lines report.toList) before opening block after →
      Text.lines other.toList = before ++ opening :: (block' ++ after) →
      List.Forall₂ (fun line line' => Redressed (Text.words line) (Text.words line'))
        block block' →
      (parse other destination).mapError Error.line? =
        (parse report destination).mapError Error.line? := by
  refine ⟨fun added report unmarked => parse_added unmarked, ?_, ?_, ?_, ?_⟩
  · intro report blank rest marked blanks ended
    -- A line feed that ends the report may serve as the one in front of the blank line.
    refine ⟨parse_behind_blank (marker_mem_pieces marked) blanks ended, ?_⟩
    rintro text rfl
    exact parse_closed_behind_blank (marker_mem_pieces marked) blanks ended
  · intro rows last unbroken
    exact parse_returns unbroken last
  · intro report other padded
    exact parse_of_pieces (map_trim_padded padded)
  · intro report other before opening block block' after framed edited dress
    exact parse_redressed framed edited dress

/-- Two lines before the report move the malformed record from the third line to the fifth. The text
behind the blank line would be malformed too. The last reports but one get blanks in front of a
carriage return and of an edge; the last ones get brackets, a comma of its own and other blanks. -/
theorem parse_layout_and_framing_edits :
    parse (String.join (["to 10.0.9.9", "no Lattice:"].map (· ++ "\n")) ++
        "Lattice:\nNone, a\n->\n") "a" =
      (parse "Lattice:\nNone, a\n->\n" "a").mapError (Error.shift 2) ∧
    parse ("Lattice:\nNone, a" ++ "\n" ++ " \t" ++ "\n->") "a" = parse "Lattice:\nNone, a" "a" ∧
    parse (String.join ([("Lattice:", true), ("None, a", false)].map fun row =>
        row.1 ++ if row.2 then "\r\n" else "\n") ++ "a, b") "a" =
      parse (String.join ([("Lattice:", true), ("None, a", false)].map fun row =>
        row.1 ++ "\n") ++ "a, b") "a" ∧
    parse "Lattice:\t\r\n None, a" "a" = parse "Lattice:\r\nNone, a" "a" ∧
    (parse "Lattice:\n[None] ,\t[a,\n" "a").mapError Error.line? =
      (parse "Lattice:\nNone a\n" "a").mapError Error.line? := by
  obtain ⟨before, behind, returns, padded, dress⟩ := parse_layout_and_framing "a"
  refine ⟨before _ _ (by decide), ?_, returns _ _ (by decide), padded _ _ ?_, ?_⟩
  · have blanks : ∀ c ∈ (" \t" : String).toList, Text.isBlank c = true ∧ c ≠ '\n' := by
      simp [Text.isBlank]
    refine (behind _ " \t" _ ⟨"Lattice:".toList, ?_, rfl⟩ blanks (.inr ⟨"->", rfl⟩)).1
    decide
  · have tab : IsPadded "Lattice:\r".toList "Lattice:\t\r".toList :=
      ⟨[], "Lattice:".toList, ['\t'], ['\r'], by simp [Text.isBlank], rfl, rfl⟩
    have space : IsPadded "None, a".toList " None, a".toList :=
      ⟨[' '], "None, a".toList, [], [], by simp [Text.isBlank], rfl, rfl⟩
    exact .cons tab (.cons space .nil)
  · refine dress _ _ [] marker ["None a".toList] ["[None] ,\t[a,".toList] [] ?_ rfl (.cons ?_ .nil)
    · exact ⟨rfl, by decide, rfl, by decide, by decide⟩
    · have last : Redressed ["a".toList] ["[a,".toList] :=
        @Redressed.wrapped ['['] [','] "a".toList [] [] (by simp [isSeparator]) .nil
      have more : Redressed ["a".toList] [",".toList, "[a,".toList] :=
        .added (by simp [isSeparator]) last
      exact @Redressed.wrapped ['['] [']'] "None".toList _ _ (by simp [isSeparator]) more

end Report
end Multipath.Lattice
