import LibraryDescriptor.Number.Binary64
import LibraryDescriptor.Text.Basic

/-!
# Shortest decimal text

A binary64 number is written with the fewest decimal digits that read back as it, and with those
nearest to it if there are several. All comparisons are of natural numbers.

* `Binary64.shortest` — digits and power of ten of a positive finite number.
* `DecimalStyle` — the choices that are left when the digits are known.
-/

namespace LibraryDescriptor

namespace Binary64

/-- Whether `a · 2 ^ i ≤ b · 10 ^ k` (or `<`, when `strict`). -/
def scaledLe (strict : Bool) (a : Nat) (i : Int) (b : Nat) (k : Int) : Bool :=
  let left := a * Nat.pow 2 i.toNat * Nat.pow 10 (-k).toNat
  let right := b * Nat.pow 10 k.toNat * Nat.pow 2 (-i).toNat
  if strict then left < right else left ≤ right

/-- Whether the decimal `d · 10 ^ k` reads back as `significand · 2 ^ exponent`. The numbers that do
form an interval that reaches half-way to each neighbour, its ends included when the significand
is even; the lower neighbour of a power of two is nearer. -/
def readsBack (significand : Nat) (exponent : Int) (d : Nat) (k : Int) : Bool :=
  let odd := significand % 2 = 1
  let below := if significand = Nat.pow 2 52 ∧ leastExponent < exponent then 1 else 2
  scaledLe odd (4 * significand - below) (exponent - 2) d k &&
    (if odd then !scaledLe false (4 * significand + 2) (exponent - 2) d k
     else !scaledLe true (4 * significand + 2) (exponent - 2) d k)

/-- The greatest `k` with `10 ^ k ≤ significand · 2 ^ exponent`, for a positive significand. -/
def floorLog10 (significand : Nat) (exponent : Int) : Int :=
  let estimate := ((significand.log2 : Int) + exponent) * 30103 / 100000
  if !scaledLe true significand exponent 1 (estimate + 1) then estimate + 1
  else if scaledLe true significand exponent 1 estimate then estimate - 1
  else estimate

/-- The one of the two multiples of `10 ^ k` around the number that reads back; of two that do, the
nearer. -/
def onGrid? (significand : Nat) (exponent k : Int) : Option Nat :=
  let unit := Nat.pow 10 k.toNat * Nat.pow 2 (-exponent).toNat
  let value := significand * Nat.pow 2 exponent.toNat * Nat.pow 10 (-k).toNat
  let low := value / unit
  let twice := 2 * (value % unit)
  match readsBack significand exponent low k, readsBack significand exponent (low + 1) k with
  | true, true => some (if twice < unit ∨ (twice = unit ∧ low % 2 = 0) then low else low + 1)
  | true, false => some low
  | false, true => some (low + 1)
  | false, false => none

/-- Search for the coarsest grid `10 ^ k` that has a hit, with `steps` finer ones to try. -/
def searchGrid (significand : Nat) (exponent k : Int) : Nat → Nat × Int
  | 0 => (significand, 0)
  | steps + 1 =>
    match onGrid? significand exponent k with
    | some d => (d, k)
    | none => searchGrid significand exponent (k - 1) steps

/-- The digits `d` and power `k` of the shortest decimal `d · 10 ^ k` that reads back as
`significand · 2 ^ exponent`; seventeen digits always do. -/
def shortest (significand : Nat) (exponent : Int) : Nat × Int :=
  searchGrid significand exponent (floorLog10 significand exponent) 17

end Binary64

/-- How a number is written once its digits are known. -/
structure DecimalStyle where
  /-- The least decimal exponent that is written without an exponent part. -/
  leastPositional : Int
  /-- The first decimal exponent that is written with an exponent part. -/
  positionalBound : Int
  /-- The least number of digits of an exponent part. -/
  exponentWidth : Nat

namespace DecimalStyle

/-- Zeros in front of digits up to a given width. -/
def padded (width : Nat) (digits : List Char) : List Char :=
  List.replicate (width - digits.length) '0' ++ digits

def layOut (style : DecimalStyle) (digits : List Char) (exponent : Int) : List Char :=
  if style.leastPositional ≤ exponent ∧ exponent < style.positionalBound then
    if exponent < 0 then
      '0' :: '.' :: List.replicate (-exponent - 1).toNat '0' ++ digits
    else
      let whole := (exponent + 1).toNat
      if digits.length ≤ whole then
        digits ++ List.replicate (whole - digits.length) '0' ++ ['.', '0']
      else digits.take whole ++ '.' :: digits.drop whole
  else
    let mantissa :=
      match digits with
      | d :: e :: rest => d :: '.' :: e :: rest
      | short => short
    mantissa ++ 'e' :: (if exponent < 0 then '-' else '+') ::
      padded style.exponentWidth (Nat.toDigits 10 exponent.natAbs)

def write (style : DecimalStyle) (negative : Bool) (significand : Nat) (exponent : Int) : Text :=
  let sign : List Char := if negative then ['-'] else []
  let body :=
    if significand = 0 then ['0', '.', '0']
    else
      let (d, k) := Binary64.shortest significand exponent
      let all := Nat.toDigits 10 d
      let digits := (all.reverse.dropWhile (· = '0')).reverse
      style.layOut digits (k + all.length - 1)
  (sign ++ body).map .scalar

end DecimalStyle

end LibraryDescriptor
