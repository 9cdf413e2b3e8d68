/-! Decimal numerals: digits alone for a natural number, digits behind an optional sign
for an integer. -/
namespace Multipath.Text

def decimal (n : Nat) : List Char := Nat.toDigits 10 n

/-- The number that one or more digits write. Leading zeros do not change it. -/
def natural? (digits : List Char) : Option Nat :=
  if digits ≠ [] ∧ digits.all Char.isDigit then some (Nat.ofDigitChars 10 digits 0) else none

/-- A natural number behind an optional plus sign, or a negative one behind a minus sign. -/
def integer? : List Char → Option Int
  | '+' :: digits => (natural? digits).map Int.ofNat
  | '-' :: digits => (natural? digits).map fun n => -Int.ofNat n
  | digits => (natural? digits).map Int.ofNat

/-- What may follow the digits of a real number: nothing, or an exponent. -/
def isExponent : List Char → Bool
  | [] => true
  | 'e' :: '+' :: digits | 'e' :: '-' :: digits | 'e' :: digits
  | 'E' :: '+' :: digits | 'E' :: '-' :: digits | 'E' :: digits =>
    !digits.isEmpty && digits.all Char.isDigit
  | _ => false

/-- A real number without a sign: digits, with a point before, behind or between them and
an exponent, or a word for what no digits write. -/
def isReal (s : List Char) : Bool :=
  let (fraction, exponent) := match s.dropWhile Char.isDigit with
    | '.' :: rest => (rest.takeWhile Char.isDigit, rest.dropWhile Char.isDigit)
    | rest => ([], rest)
  ["inf", "infinity", "nan"].contains (String.ofList (s.map Char.toLower)) ||
    (!(s.takeWhile Char.isDigit ++ fraction).isEmpty && isExponent exponent)

def hexDigit? (c : Char) : Option Nat :=
  if c.isDigit then some (c.toNat - 0x30)
  else if 'a' ≤ c ∧ c ≤ 'f' then some (c.toNat - 0x57)
  else if 'A' ≤ c ∧ c ≤ 'F' then some (c.toNat - 0x37)
  else none

def largestWord : Nat := 0xffffffffffffffff

theorem decimal_ne_nil (n : Nat) : decimal n ≠ [] := Nat.toDigits_ne_nil

theorem isDigit_of_mem_decimal {n : Nat} {c : Char} (h : c ∈ decimal n) : c.isDigit = true :=
  Nat.isDigit_of_mem_toDigits (by decide) (by decide) h

/-- Written numbers are read back. -/
@[simp] theorem natural?_decimal (n : Nat) : natural? (decimal n) = some n := by
  rw [natural?, if_pos ⟨decimal_ne_nil n, List.all_eq_true.2 fun _ => isDigit_of_mem_decimal⟩]
  exact congrArg some (Nat.ofDigitChars_toDigits (by decide) (by decide))

end Multipath.Text
