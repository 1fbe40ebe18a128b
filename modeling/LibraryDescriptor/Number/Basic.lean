import LibraryDescriptor.Number.Shortest

/-!
# Numbers of literals

A numeric literal denotes an integer of any size or, when it is spelled with a point or an
exponent, a binary64 number.
-/

namespace LibraryDescriptor

/-- The value of a numeric literal. -/
inductive Number where
  /-- An integer. -/
  | integer (n : Int)
  /-- A binary64 number. -/
  | real (x : Binary64)
  deriving DecidableEq, Inhabited

namespace Number

/-- The greatest number of decimal digits of an integer that is read from or written in decimal. -/
def maxDecimalDigits : Nat := 4300

/-- Positional from a ten-thousandth up to sixteen places, exponents with a sign and two digits. -/
def literalStyle : DecimalStyle := ⟨-4, 16, 2⟩

/-- The decimal spelling of a number; `none` for an integer with too many digits. -/
def spelling? : Number → Option Text
  | .integer n =>
    if Nat.pow 10 maxDecimalDigits ≤ n.natAbs then none else some (Text.ofInt n)
  | .real x =>
    match x.view with
    | .finite negative significand exponent =>
      some (literalStyle.write negative significand exponent)
    | .infinite negative => some (if negative then "-inf" else "inf")
    | .notNumber => some "nan"

end Number

end LibraryDescriptor
