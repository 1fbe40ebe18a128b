/-!
# Ranges of characters

A character property that no short rule gives is a table of closed ranges of code points in
ascending order.
-/

namespace LibraryDescriptor

/-- Whether `n` lies in one of the ascending closed ranges. -/
def CharRange.covers : List (Nat × Nat) → Nat → Bool
  | [], _ => false
  | (low, high) :: rest, n => if n < low then false else n ≤ high || CharRange.covers rest n

end LibraryDescriptor
