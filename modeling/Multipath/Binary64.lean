/-! Non-negative binary floating-point numbers with a significand of fifty-three bits, as
far as rates need them: numbers are converted and divided with one rounding each, to the
nearest, and to the even significand between two equally near. Exponents are unbounded;
the quotients of two sixty-four-bit counts stay well inside the range of the format. -/
namespace Multipath

/-- The nearest whole number to a quotient, the even one of two equally near. -/
def roundDiv (numerator denominator : Nat) : Nat :=
  let quotient := numerator / denominator
  let twice := 2 * (numerator % denominator)
  if twice < denominator then quotient
  else if denominator < twice then quotient + 1
  else quotient + quotient % 2

/-- The number `significand * 2 ^ exponent`. A significand other than zero has
fifty-three bits. -/
structure Binary64 where
  significand : Nat
  exponent : Int
  deriving DecidableEq, Repr

namespace Binary64

def zero : Binary64 := ⟨0, 0⟩

def twoTo (k : Nat) : Nat := Nat.pow 2 k

def tenTo (k : Nat) : Nat := Nat.pow 10 k

/-- The quotient of `numerator` and `denominator * 2 ^ exponent`, rounded. -/
def roundAt (numerator denominator : Nat) (exponent : Int) : Nat :=
  match exponent with
  | .ofNat e => roundDiv numerator (denominator * twoTo e)
  | .negSucc e => roundDiv (numerator * twoTo (e + 1)) denominator

/-- The least exponent at which the quotient has at most fifty-three bits before it is
rounded. The binary logarithms leave a choice of two. -/
def exponentOf (numerator denominator : Nat) : Int :=
  let e : Int := Int.ofNat numerator.log2 - Int.ofNat denominator.log2 - 52
  let short : Bool := match e with
    | .ofNat k => numerator < denominator * twoTo (k + 52)
    | .negSucc k => numerator * twoTo (k + 1) < denominator * twoTo 52
  if short then e - 1 else e

def ofRatio (numerator denominator : Nat) : Binary64 :=
  if numerator = 0 ∨ denominator = 0 then zero
  else
    let e := exponentOf numerator denominator
    let s := roundAt numerator denominator e
    if s = twoTo 53 then ⟨twoTo 52, e + 1⟩ else ⟨s, e⟩

def ofNat (n : Nat) : Binary64 := ofRatio n 1

/-- The quotient, rounded once. -/
def div (a b : Binary64) : Binary64 :=
  match a.exponent - b.exponent with
  | .ofNat e => ofRatio (a.significand * twoTo e) b.significand
  | .negSucc e => ofRatio a.significand (b.significand * twoTo (e + 1))

/-- The sixty-four bits of the interchange format: no sign, a biased exponent, and the
significand without its leading bit. -/
def bits (a : Binary64) : Nat :=
  if a.significand = 0 then 0
  else (a.exponent + 1075).toNat * twoTo 52 + (a.significand - twoTo 52)

/-- The number in units of the given decimal place, rounded from its exact value. -/
def scaled (places : Nat) (a : Binary64) : Nat :=
  match a.exponent with
  | .ofNat e => a.significand * twoTo e * tenTo places
  | .negSucc e => roundDiv (a.significand * tenTo places) (twoTo (e + 1))

def fixed (places : Nat) (a : Binary64) : String :=
  let units := a.scaled places
  let whole := Nat.toDigits 10 (units / tenTo places)
  let digits := Nat.toDigits 10 (units % tenTo places)
  String.ofList (whole ++ '.' :: List.replicate (places - digits.length) '0' ++ digits)

end Binary64

/-- A part of a total that is not empty. -/
structure Fraction where
  part : Nat
  total : Nat
  total_pos : 0 < total
  deriving DecidableEq, Repr

namespace Fraction

def of? (part total : Nat) : Option Fraction :=
  if h : 0 < total then some ⟨part, total, h⟩ else none

/-- Both counts are rounded before they are divided. -/
def toBinary64 (f : Fraction) : Binary64 := (Binary64.ofNat f.part).div (Binary64.ofNat f.total)

/-- Four places, or a mark for a part of nothing. -/
def text : Option Fraction → String
  | some f => f.toBinary64.fixed 4
  | none => "n/a"

@[simp] theorem of?_eq_none_iff {part total : Nat} : of? part total = none ↔ total = 0 := by
  simp [of?, Nat.pos_iff_ne_zero]

end Fraction
end Multipath
