/-! Blank characters, and the three ways in which the reports and target files are cut:
into lines, into words, and by removing unwanted characters from both ends. Text is a
list of characters here, so that every cut is a list operation. -/
namespace Multipath.Text

/-- The characters that have the Unicode property White_Space. -/
def isBlank (c : Char) : Bool :=
  let n := c.toNat
  (0x9 ≤ n && n ≤ 0xd) || n == 0x20 || n == 0x85 || n == 0xa0 || n == 0x1680 ||
    (0x2000 ≤ n && n ≤ 0x200a) || n == 0x2028 || n == 0x2029 || n == 0x202f ||
    n == 0x205f || n == 0x3000

def strip (unwanted : Char → Bool) (s : List Char) : List Char :=
  ((s.dropWhile unwanted).reverse.dropWhile unwanted).reverse

def trim (s : List Char) : List Char := strip isBlank s

def words (s : List Char) : List (List Char) :=
  (s.splitOnP isBlank).filter (fun word => !word.isEmpty)

/-- A carriage return directly before a line end belongs to the line end. -/
def dropReturn (line : List Char) : List Char :=
  match line.reverse with
  | '\r' :: before => before.reverse
  | _ => line

/-- The lines of a text. A line feed ends a line, so nothing follows the last one; a
text that does not end with a line feed has an open last line. -/
def lines (s : List Char) : List (List Char) :=
  let pieces := s.splitOn '\n'
  let last := pieces.getLastD []
  pieces.dropLast.map dropReturn ++ (if last.isEmpty then [] else [last])

@[simp] theorem words_nil : words [] = [] := rfl

theorem words_blank_cons {c : Char} (h : isBlank c = true) (s : List Char) :
    words (c :: s) = words s := by
  simp [words, List.splitOnP_cons_eq_if_modifyHead, h]

/-- A word is never empty. -/
theorem ne_nil_of_mem_words {s word : List Char} (h : word ∈ words s) : word ≠ [] := by
  simp only [words, List.mem_filter, Bool.not_eq_true', List.isEmpty_eq_false_iff] at h
  exact h.2

end Multipath.Text
