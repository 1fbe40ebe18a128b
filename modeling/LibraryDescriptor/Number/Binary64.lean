/-!
# Binary floating point

IEEE 754 binary64 numbers by their bits, with reading by exact arithmetic.

* `Binary64.view` — sign and magnitude, or one of the two special classes.
* `Binary64.ofRatio` — the binary64 number nearest to a quotient, a tie going to the even one.
* `Binary64.ofDecimal` — the same for a decimal `digits · 10 ^ exponent`.
-/

namespace LibraryDescriptor

structure Binary64 where
  /-- Sign, biased exponent and fraction, from the highest bit down. -/
  bits : UInt64
  deriving DecidableEq, Inhabited

namespace Binary64

/-- What the bits of a binary64 number stand for. -/
inductive View where
  /-- The number `± significand · 2 ^ exponent`. -/
  | finite (negative : Bool) (significand : Nat) (exponent : Int)
  /-- An infinity. -/
  | infinite (negative : Bool)
  /-- Not a number. -/
  | notNumber
  deriving DecidableEq

def leastExponent : Int := -1074

def view (x : Binary64) : View :=
  let n := x.bits.toNat
  let negative := Nat.pow 2 63 ≤ n
  let biased : Nat := n / Nat.pow 2 52 % Nat.pow 2 11
  let fraction : Nat := n % Nat.pow 2 52
  if biased = 2047 then if fraction = 0 then .infinite negative else .notNumber
  else if biased = 0 then .finite negative fraction leastExponent
  else .finite negative (Nat.pow 2 52 + fraction) ((biased : Int) - 1075)

/-- The quotient of two natural numbers, rounded to the nearest one and to the even one of two
that are as near. -/
def roundDiv (num den : Nat) : Nat :=
  let quotient := num / den
  let twice := 2 * (num % den)
  if den < twice ∨ (twice = den ∧ quotient % 2 = 1) then quotient + 1 else quotient

def infinity : Binary64 := ⟨0x7FF0000000000000⟩

def notNumber : Binary64 := ⟨0x7FF8000000000000⟩

def negate (x : Binary64) : Binary64 := ⟨x.bits ^^^ 0x8000000000000000⟩

/-- The greatest `e` with `2 ^ e ≤ num / den`, for positive `num` and `den`. -/
def floorLog2 (num den : Nat) : Int :=
  let estimate : Int := (num.log2 : Int) - den.log2
  if den * Nat.pow 2 estimate.toNat ≤ num * Nat.pow 2 (-estimate).toNat
    then estimate else estimate - 1

def ofRatio (num den : Nat) : Binary64 :=
  if num = 0 then ⟨0⟩
  else
    let exponent := max (floorLog2 num den - 52) leastExponent
    let significand := roundDiv (num * Nat.pow 2 (-exponent).toNat) (den * Nat.pow 2 exponent.toNat)
    -- A significand that rounds up to the next power of two carries into the exponent field.
    let bits := (exponent - leastExponent).toNat * Nat.pow 2 52 + significand
    if bits < infinity.bits.toNat then ⟨UInt64.ofNat bits⟩ else infinity

def digitsValue (digits : List Nat) : Nat := digits.foldl (fun n d => 10 * n + d) 0

/-- The binary64 number nearest to `digits · 10 ^ exponent`. Exponents far outside the range of
the format are settled by the number of digits alone. -/
def ofDecimal (digits : List Nat) (exponent : Int) : Binary64 :=
  let significant := digits.dropWhile (· = 0)
  let magnitude : Int := significant.length + exponent
  if significant = [] ∨ magnitude ≤ -324 then ⟨0⟩
  else if 310 ≤ magnitude then infinity
  else ofRatio (digitsValue significant * Nat.pow 10 exponent.toNat) (Nat.pow 10 (-exponent).toNat)

end Binary64

end LibraryDescriptor
