import Mathlib.Data.List.Basic
import Mathlib.Data.List.DropRight
import Mathlib.Data.List.TakeWhile
import Multipath.Text.Blank

/-! Cutting written text. Lines that were written with their line ends are cut back into the same
lines, words between blanks into the same words, and what is put around a word is stripped off
again. A carriage return before a line end is blank, so it is seen by neither words nor ends. -/
namespace Multipath.Text

theorem isBlank_return : isBlank '\r' = true := rfl

section Strip

variable {unwanted : Char → Bool} {s : List Char}

theorem strip_eq_self (first : ∀ c ∈ s.head?, unwanted c = false)
    (last : ∀ c ∈ s.getLast?, unwanted c = false) : strip unwanted s = s := by
  have keepsFirst : s.dropWhile unwanted = s := by
    cases s with
    | nil => rfl
    | cons c s => exact List.dropWhile_cons_of_neg (by simpa using first c rfl)
  have keepsLast : s.reverse.dropWhile unwanted = s.reverse := by
    cases reversed : s.reverse with
    | nil => rfl
    | cons c r =>
      have ends : s.getLast? = some c := by rw [List.getLast?_eq_head?_reverse, reversed]; rfl
      exact List.dropWhile_cons_of_neg (by simpa using last c ends)
  rw [strip, keepsFirst, keepsLast, List.reverse_reverse]

/-- What is unwanted behind a text does not count. -/
theorem strip_append_right {behind : List Char} (bare : ∀ c ∈ behind, unwanted c = true) :
    strip unwanted (s ++ behind) = strip unwanted s := by
  have reversed : ∀ c ∈ behind.reverse, unwanted c = true :=
    fun c h => bare c (List.mem_reverse.mp h)
  unfold strip
  rw [List.dropWhile_append]
  split
  · rename_i noneKept
    have empty : s.dropWhile unwanted = [] := List.isEmpty_iff.mp noneKept
    rw [empty, List.dropWhile_eq_nil_iff.mpr bare]
  · rw [List.reverse_append, List.dropWhile_append_of_pos reversed]

theorem strip_append_left {front : List Char} (bare : ∀ c ∈ front, unwanted c = true) :
    strip unwanted (front ++ s) = strip unwanted s := by
  rw [strip, List.dropWhile_append_of_pos bare]
  rfl

theorem strip_of_all (bare : ∀ c ∈ s, unwanted c = true) : strip unwanted s = [] := by
  rw [strip, List.dropWhile_eq_nil_iff.mpr bare]
  rfl

/-- A text is what is left of it between what was stripped off. -/
theorem exists_stripped (unwanted : Char → Bool) (s : List Char) :
    ∃ front behind, s = front ++ strip unwanted s ++ behind ∧
      (∀ c ∈ front, unwanted c = true) ∧ ∀ c ∈ behind, unwanted c = true := by
  refine ⟨s.takeWhile unwanted, (s.dropWhile unwanted).rtakeWhile unwanted, ?_,
    fun c member => List.mem_takeWhile_imp member, fun c member => ?_⟩
  · have inner : strip unwanted s ++ (s.dropWhile unwanted).rtakeWhile unwanted =
        s.dropWhile unwanted := List.rdropWhile_append_rtakeWhile ..
    rw [List.append_assoc, inner, List.takeWhile_append_dropWhile]
  · exact List.mem_takeWhile_imp (List.mem_reverse.mp member)

theorem last_strip (unwanted : Char → Bool) (s : List Char) :
    ∀ c ∈ (strip unwanted s).getLast?, unwanted c = false := by
  intro c last
  rw [strip, List.getLast?_reverse] at last
  have stopped := List.head?_dropWhile_not unwanted (s.dropWhile unwanted).reverse
  rwa [last] at stopped

theorem first_strip (unwanted : Char → Bool) (s : List Char) :
    ∀ c ∈ (strip unwanted s).head?, unwanted c = false := by
  intro c first
  obtain ⟨behind, whole⟩ : strip unwanted s <+: s.dropWhile unwanted := List.rdropWhile_prefix ..
  have stopped := List.head?_dropWhile_not unwanted s
  rw [← whole, List.head?_append, first] at stopped
  exact stopped

end Strip

structure IsTight (s : List Char) : Prop where
  full : s ≠ []
  first : ∀ c ∈ s.head?, isBlank c = false
  last : ∀ c ∈ s.getLast?, isBlank c = false

theorem IsTight.trim_eq_self {s : List Char} (tight : IsTight s) : trim s = s :=
  strip_eq_self tight.first tight.last

/-- What stands between two tight texts does not show at the ends. -/
theorem IsTight.append {s t : List Char} (hs : IsTight s) (ht : IsTight t) (between : List Char) :
    IsTight (s ++ between ++ t) where
  full := by simp [hs.full]
  first := by
    rw [List.append_assoc, List.head?_append_of_ne_nil _ hs.full]
    exact hs.first
  last := by
    rw [List.getLast?_append_of_ne_nil _ ht.full]
    exact ht.last

structure IsWord (s : List Char) : Prop where
  full : s ≠ []
  unbroken : ∀ c ∈ s, isBlank c = false

theorem isWord_iff {s : List Char} : IsWord s ↔ s ≠ [] ∧ s.all (!isBlank ·) := by
  simp only [List.all_eq_true, Bool.not_eq_true']
  constructor
  · intro word
    exact ⟨word.full, word.unbroken⟩
  · rintro ⟨full, unbroken⟩
    exact ⟨full, unbroken⟩

instance : DecidablePred IsWord := fun _ => decidable_of_iff _ isWord_iff.symm

theorem IsWord.isTight {s : List Char} (word : IsWord s) : IsTight s where
  full := word.full
  first := fun c h => word.unbroken c (List.mem_of_mem_head? h)
  last := fun c h => word.unbroken c (List.mem_of_mem_getLast? h)

theorem IsWord.not_mem_feed {s : List Char} (word : IsWord s) : '\n' ∉ s := by
  intro member
  have unblank := word.unbroken _ member
  contradiction

/-- Blanks put around a line do not count. -/
theorem trim_padded {left right : List Char} (line : List Char)
    (before : ∀ c ∈ left, isBlank c = true) (after : ∀ c ∈ right, isBlank c = true) :
    trim (left ++ line ++ right) = trim line := by
  rw [trim, strip_append_right after, strip_append_left before]
  rfl

theorem trim_dropReturn (line : List Char) : trim (dropReturn line) = trim line := by
  unfold dropReturn
  split
  · rename_i before reversed
    have shape : line = before.reverse ++ ['\r'] := by
      rw [← List.reverse_reverse line, reversed, List.reverse_cons]
    rw [shape]
    exact (strip_append_right (by simp [isBlank_return])).symm
  · rfl

section Words

variable {s t : List Char} {c : Char}

theorem words_append_blank (blank : isBlank c = true) :
    words (s ++ c :: t) = words s ++ words t := by
  rw [words, List.splitOnP_append_cons s t blank, List.filter_append]
  rfl

theorem words_word (word : IsWord s) : words s = [s] := by
  rw [words, List.splitOnP_eq_singleton word.unbroken]
  simpa using word.full

theorem words_dropReturn (line : List Char) : words (dropReturn line) = words line := by
  unfold dropReturn
  split
  · rename_i before reversed
    have shape : line = before.reverse ++ '\r' :: [] := by
      rw [← List.reverse_reverse line, reversed, List.reverse_cons]
    rw [shape, words_append_blank isBlank_return, words_nil, List.append_nil]
  · rfl

theorem words_blanks_append {front : List Char} (blanks : ∀ c ∈ front, isBlank c = true) :
    words (front ++ s) = words s := by
  induction front with
  | nil => rfl
  | cons c front ih =>
    obtain ⟨first, rest⟩ := List.forall_mem_cons.mp blanks
    rw [List.cons_append, words_blank_cons first, ih rest]

theorem words_append_blanks {behind : List Char} (blanks : ∀ c ∈ behind, isBlank c = true) :
    words (s ++ behind) = words s := by
  cases behind with
  | nil => rw [List.append_nil]
  | cons c behind =>
    obtain ⟨first, rest⟩ := List.forall_mem_cons.mp blanks
    have wordless : words behind = [] := by
      have := words_blanks_append (s := []) rest
      rwa [List.append_nil, words_nil] at this
    rw [words_append_blank first, wordless, List.append_nil]

theorem words_trim (s : List Char) : words (trim s) = words s := by
  obtain ⟨front, behind, whole, before, after⟩ := exists_stripped isBlank s
  calc words (trim s) = words (front ++ trim s ++ behind) := by
        rw [words_append_blanks after, words_blanks_append before]
    _ = words s := by rw [trim, ← whole]

/-- The words of a text hold its characters, apart from the blanks. -/
theorem flatten_words (s : List Char) : (words s).flatten = s.filter (!isBlank ·) := by
  rw [words, List.flatten_filter_not_isEmpty]
  induction s with
  | nil => rfl
  | cons c s ih =>
    obtain ⟨piece, pieces, split⟩ := List.exists_cons_of_ne_nil (List.splitOnP_ne_nil isBlank s)
    rw [split] at ih
    rw [List.splitOnP_cons_eq_if_modifyHead, split]
    by_cases blank : isBlank c = true
    · simpa [blank] using ih
    · simpa [blank] using ih

theorem isWord_of_mem_words {word : List Char} (member : word ∈ words s) : IsWord word where
  full := ne_nil_of_mem_words member
  unbroken := by
    intro c inside
    have among : c ∈ (words s).flatten := List.mem_flatten.mpr ⟨word, member, inside⟩
    rw [flatten_words] at among
    simpa using List.of_mem_filter among

theorem trim_eq_nil_iff : trim s = [] ↔ words s = [] := by
  constructor
  · intro blank
    rw [← words_trim, blank, words_nil]
  · intro wordless
    have noneLeft : s.filter (!isBlank ·) = [] := by
      rw [← flatten_words, wordless, List.flatten_nil]
    exact strip_of_all fun c member => by simpa using List.filter_eq_nil_iff.mp noneLeft c member

end Words

section Lines

/-- The pieces between line feeds are the lines, but for a return at their ends and for what
follows the last line feed if that is nothing. -/
theorem map_trim_splitOn (s : List Char) :
    (s.splitOn '\n').map trim = (lines s).map trim ∨
      (s.splitOn '\n').map trim = (lines s).map trim ++ [[]] := by
  rcases List.eq_nil_or_concat' (s.splitOn '\n') with noPieces | ⟨before, last, split⟩
  · exact absurd noPieces (List.splitOn_ne_nil '\n' s)
  · have closed : (before.map dropReturn).map trim = before.map trim := by
      rw [List.map_map]
      exact List.map_congr_left fun line _ => trim_dropReturn line
    by_cases empty : last = []
    · right
      simp [lines, split, closed, empty, show trim [] = [] from rfl]
    · left
      simp [lines, split, closed, empty]

theorem splitOn_append_feed (s t : List Char) :
    (s ++ '\n' :: t).splitOn '\n' = s.splitOn '\n' ++ t.splitOn '\n' :=
  List.splitOnP_append_cons s t (beq_self_eq_true '\n')

theorem splitOn_written {written : List (List Char)} (unbroken : ∀ line ∈ written, '\n' ∉ line)
    (rest : List Char) :
    (written.flatMap (· ++ ['\n']) ++ rest).splitOn '\n' = written ++ rest.splitOn '\n' := by
  induction written with
  | nil => rfl
  | cons line written ih =>
    obtain ⟨first, others⟩ := List.forall_mem_cons.mp unbroken
    have shape : (line :: written).flatMap (· ++ ['\n']) ++ rest =
        line ++ '\n' :: (written.flatMap (· ++ ['\n']) ++ rest) := by simp
    rw [shape, List.splitOn_append_cons_self_of_not_mem first, ih others, List.cons_append]

/-- The pieces of a text of which each line was written with its line feed. -/
theorem splitOn_joined {written : List String} (unbroken : ∀ line ∈ written, '\n' ∉ line.toList)
    (rest : String) :
    (String.join (written.map (· ++ "\n")) ++ rest).toList.splitOn '\n' =
      written.map String.toList ++ rest.toList.splitOn '\n' := by
  have shape : (String.join (written.map (· ++ "\n")) ++ rest).toList =
      (written.map String.toList).flatMap (· ++ ['\n']) ++ rest.toList := by
    simp [List.flatMap_map]
  rw [shape]
  refine splitOn_written (fun line member => ?_) rest.toList
  obtain ⟨text, among, rfl⟩ := List.mem_map.mp member
  exact unbroken text among

theorem lines_nil : lines [] = [] := rfl

theorem lines_append_feed {line : List Char} (unbroken : '\n' ∉ line) (rest : List Char) :
    lines (line ++ '\n' :: rest) = dropReturn line :: lines rest := by
  obtain ⟨piece, pieces, split⟩ := List.exists_cons_of_ne_nil (List.splitOn_ne_nil '\n' rest)
  unfold lines
  rw [List.splitOn_append_cons_self_of_not_mem unbroken, split]
  rfl

theorem lines_of_written {written : List (List Char)} (unbroken : ∀ line ∈ written, '\n' ∉ line) :
    lines (written.flatMap (· ++ ['\n'])) = written.map dropReturn := by
  induction written with
  | nil => exact lines_nil
  | cons line written ih =>
    obtain ⟨first, rest⟩ := List.forall_mem_cons.mp unbroken
    have shape : (line :: written).flatMap (· ++ ['\n']) =
        line ++ '\n' :: written.flatMap (· ++ ['\n']) := by simp
    rw [shape, lines_append_feed first, ih rest, List.map_cons]

end Lines
end Multipath.Text
