import Mathlib.Data.List.Basic
import Multipath.Json.Parser

/-! The strings and numbers of JSON text. What is written for a string or a natural number is
read back, and the text behind it is left untouched. -/
namespace Multipath

namespace Text

/-- A number does not begin with a zero, unless it is zero. -/
theorem head_decimal_ne_zero {n : Nat} (positive : 0 < n) : ∀ c ∈ (decimal n).head?, c ≠ '0' := by
  induction n using Nat.strongRecOn with
  | ind n ih =>
    unfold decimal at ih ⊢
    by_cases small : n < 10
    · rw [Nat.toDigits_of_lt_base small]
      have nonzero : ∀ d, d < 10 → 0 < d → d.digitChar ≠ '0' := by decide
      simpa using nonzero n small positive
    · rw [Nat.toDigits_of_base_le (by decide) (Nat.le_of_not_lt small),
        List.head?_append_of_ne_nil _ Nat.toDigits_ne_nil]
      exact ih (n / 10) (by omega) (by omega)

end Text

namespace Json

section Strings

variable {c : Char} {rest : List Char}

theorem quad?_hexQuad : ∀ n, n < 0x20 →
    ∃ a b c d, hexQuad n = [a, b, c, d] ∧ quad? a b c d = some n := by
  intro n small
  refine ⟨_, _, _, _, rfl, ?_⟩
  revert n
  decide

theorem ofNumber_control (control : c.toNat < 0x20) : Piece.ofNumber c.toNat = .char c := by
  have notHigh : isHighSurrogate c.toNat = false := by
    simp only [isHighSurrogate, Bool.and_eq_false_imp, decide_eq_true_eq]
    omega
  have notLow : isLowSurrogate c.toNat = false := by
    simp only [isLowSurrogate, Bool.and_eq_false_imp, decide_eq_true_eq]
    omega
  simp [Piece.ofNumber, notHigh, notLow]

/-- What is read behind a backslash and a letter. -/
theorem stringRest_shortEscape {letter : Char} (short : shortEscape? letter = some c)
    (rest : List Char) :
    stringRest ('\\' :: letter :: rest) =
      (stringRest rest).map fun (pieces, after) => (.char c :: pieces, after) := by
  have noNumber : letter ≠ 'u' := by
    rintro rfl
    contradiction
  rw [stringRest]
  · cases stringRest rest <;> simp [short]
  · intro _ _ _ _ _ number
    exact absurd number noNumber

theorem stringRest_control (control : c.toNat < 0x20) (rest : List Char) :
    stringRest ('\\' :: 'u' :: hexQuad c.toNat ++ rest) =
      (stringRest rest).map fun (pieces, after) => (.char c :: pieces, after) := by
  obtain ⟨i, j, k, l, digits, number⟩ := quad?_hexQuad _ control
  rw [digits, List.cons_append, List.cons_append]
  show stringRest ('\\' :: 'u' :: i :: j :: k :: l :: rest) = _
  rw [stringRest, number]
  cases stringRest rest <;> simp [ofNumber_control control]

/-- A character is read from what is written for it. -/
theorem stringRest_escapeChar (c : Char) (rest : List Char) :
    stringRest (escapeChar c ++ rest) =
      (stringRest rest).map fun (pieces, after) => (.char c :: pieces, after) := by
  by_cases quote : c = '"'
  · subst quote
    exact stringRest_shortEscape rfl rest
  by_cases backslash : c = '\\'
  · subst backslash
    exact stringRest_shortEscape rfl rest
  by_cases feed : c = '\n'
  · subst feed
    exact stringRest_shortEscape rfl rest
  by_cases back : c = '\r'
  · subst back
    exact stringRest_shortEscape rfl rest
  by_cases tab : c = '\t'
  · subst tab
    exact stringRest_shortEscape rfl rest
  by_cases backspace : c = Char.ofNat 8
  · subst backspace
    exact stringRest_shortEscape rfl rest
  by_cases page : c = Char.ofNat 12
  · subst page
    exact stringRest_shortEscape rfl rest
  -- What has no short escape is written by its number if it is a control, and as it is if not.
  by_cases control : c.toNat < 0x20
  · have written : escapeChar c = '\\' :: 'u' :: hexQuad c.toNat := by
      simp [escapeChar, quote, backslash, feed, back, tab, backspace, page, control]
    rw [written]
    exact stringRest_control control rest
  · have written : escapeChar c = [c] := by
      simp [escapeChar, quote, backslash, feed, back, tab, backspace, page, control]
    rw [written, List.singleton_append, stringRest]
    · cases stringRest rest <;> simp [control, backslash]
    · exact quote
    · exact fun _ _ _ _ _ isBackslash => absurd isBackslash backslash
    · exact fun _ _ isBackslash => absurd isBackslash backslash

theorem stringRest_flatMap_escapeChar (s rest : List Char) :
    stringRest (s.flatMap escapeChar ++ '"' :: rest) = some (s.map .char, rest) := by
  induction s with
  | nil => rfl
  | cons c s ih => rw [List.flatMap_cons, List.append_assoc, stringRest_escapeChar, ih]; rfl

theorem characters?_map_char (s : List Char) : characters? (s.map .char) = some s := by
  induction s with
  | nil => rfl
  | cons c s ih => simp [characters?, ih]

theorem text?_map_char (s : String) : text? (s.toList.map .char) = some s := by
  simp [text?, characters?_map_char]

end Strings

section Numbers

def EndsNumber (rest : List Char) : Prop :=
  ∀ c ∈ rest.head?, c.isDigit = false ∧ c ≠ '.' ∧ c ≠ 'e' ∧ c ≠ 'E'

variable {rest : List Char}

theorem digits?_decimal (n : Nat) (ends : EndsNumber rest) :
    digits? (Text.decimal n ++ rest) = some (Text.decimal n, rest) := by
  have digits : ∀ c ∈ Text.decimal n, c.isDigit = true := fun _ => Text.isDigit_of_mem_decimal
  have noDigits : rest.takeWhile Char.isDigit = [] ∧ rest.dropWhile Char.isDigit = rest := by
    cases rest with
    | nil => exact ⟨rfl, rfl⟩
    | cons c rest =>
      have noDigit := (ends c rfl).1
      simp [noDigit]
  rw [digits?, List.takeWhile_append_of_pos digits, List.dropWhile_append_of_pos digits, noDigits.1,
    noDigits.2, List.append_nil]
  simp [Text.decimal_ne_nil]

theorem whole?_decimal (n : Nat) (ends : EndsNumber rest) :
    whole? (Text.decimal n ++ rest) = some (Text.decimal n, rest) := by
  by_cases zero : n = 0
  · subst zero
    rfl
  · have head := Text.head_decimal_ne_zero (Nat.pos_of_ne_zero zero)
    rw [whole?]
    · exact digits?_decimal n ends
    · intro tail zeroFirst
      cases written : Text.decimal n with
      | nil => exact Text.decimal_ne_nil n written
      | cons c digits =>
        rw [written, List.cons_append] at zeroFirst
        rw [written] at head
        exact head c rfl (List.cons.inj zeroFirst).1

theorem fraction?_of_ends (ends : EndsNumber rest) : fraction? rest = some rest := by
  rw [fraction?]
  rintro tail rfl
  exact (ends '.' rfl).2.1 rfl

theorem exponent?_of_ends (ends : EndsNumber rest) : exponent? rest = some rest := by
  unfold exponent?
  split
  all_goals first | rfl | exact absurd rfl (ends _ rfl).2.2.1 | exact absurd rfl (ends _ rfl).2.2.2

theorem number?_decimal (n : Nat) (ends : EndsNumber rest) :
    number? (Text.decimal n ++ rest) = some (.natural n, rest) := by
  have read : Nat.ofDigitChars 10 (Text.decimal n) 0 = n :=
    Nat.ofDigitChars_toDigits (by decide) (by decide)
  unfold number?
  split
  · rename_i positive signed
    cases written : Text.decimal n with
    | nil => exact absurd written (Text.decimal_ne_nil n)
    | cons c digits =>
      have digit : c.isDigit = true := Text.isDigit_of_mem_decimal (written ▸ List.mem_cons_self)
      rw [written, List.cons_append] at signed
      rw [(List.cons.inj signed).1] at digit
      contradiction
  · simp [whole?_decimal n ends, fraction?_of_ends ends, exponent?_of_ends ends, read]

end Numbers

end Json
end Multipath
