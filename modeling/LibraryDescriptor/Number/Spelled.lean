import LibraryDescriptor.Number.Basic
import LibraryDescriptor.Text.Blank
import LibraryDescriptor.Text.Numeral

/-!
# Spelled numbers

Numbers that come as free text: blanks may stand around them, a sign in front, and the decimal
digits of every script count.

* `Spelled.integer?` — the integer that a text spells in a base.
* `Spelled.real?` — the binary64 number that a text spells.
-/

namespace LibraryDescriptor

namespace Spelled

/-- A code point, where a decimal digit of any script counts as the ASCII one. -/
def plainDigit : CodePoint → CodePoint
  | .scalar c => .scalar ((decimalDigit? c).elim c fun d => Char.ofNat (48 + d))
  | .surrogate offset => .surrogate offset

def isAround : CodePoint → Bool :=
  CodePoint.has fun c => isAsciiBlank c || (128 ≤ c.toNat && isBlank c)

/-- A text without the blanks around it, and with ASCII digits. -/
def plain (t : Text) : Text :=
  (((t.dropWhile isAround).reverse.dropWhile isAround).reverse).map plainDigit

def signed : Text → Bool × Text
  | .scalar '-' :: rest => (true, rest)
  | .scalar '+' :: rest => (false, rest)
  | t => (false, t)

/-! ## Integers -/

def digit? (base : Nat) (c : Char) : Option Nat := (hexDigit? c).filter (· < base)

/-- Digits with single underscores between them, after a digit (`value`) or at the start. -/
def digits? (base : Nat) : Option Nat → Text → Option Nat
  | value, [] => value
  | some value, .scalar '_' :: .scalar c :: rest =>
    (digit? base c).bind fun d => digits? base (some (base * value + d)) rest
  | value, .scalar c :: rest =>
    (digit? base c).bind fun d => digits? base (some (base * value.getD 0 + d)) rest
  | _, .surrogate _ :: _ => none

/-- Whether a letter after a leading zero announces digits of a base. -/
def announces (base : Nat) (letter : Char) : Bool :=
  match base with
  | 2 => letter == 'b' || letter == 'B'
  | 8 => letter == 'o' || letter == 'O'
  | 16 => letter == 'x' || letter == 'X'
  | _ => false

/-- An integer without its sign: digits, which may be announced and then may also have an underscore
in front. -/
def magnitude? (base : Nat) : Text → Option Nat
  | .scalar '0' :: .scalar letter :: rest =>
    if announces base letter then
      match rest with
      | .scalar '_' :: digits => digits? base none digits
      | digits => digits? base none digits
    else digits? base none (.scalar '0' :: .scalar letter :: rest)
  | digits => digits? base none digits

def isTooLong (t : Text) : Bool :=
  Number.maxDecimalDigits < (t.filter (·.has Char.isDigit)).length

def integer? (base : Nat) (t : Text) : Option Int :=
  let (negative, rest) := signed (plain t)
  if base = 10 ∧ isTooLong rest then none
  else (magnitude? base rest).map fun n => if negative then -(n : Int) else n

/-! ## Real numbers -/

def spanDigits (t : Text) : Text × Text :=
  (t.takeWhile (·.has Char.isDigit), t.dropWhile (·.has Char.isDigit))

/-- The values of ASCII digits. -/
def digitValues (t : Text) : List Nat := t.map (·.toNat - 48)

def exponent? : Text → Option Int
  | [] => some 0
  | p :: rest =>
    let (negative, digits) := signed rest
    if p.isIn ['e', 'E'] && !digits.isEmpty && digits.all (·.has Char.isDigit) then
      let n := Binary64.digitsValue (digitValues digits)
      some (if negative then -(n : Int) else n)
    else none

/-- A decimal without its sign: digits with or without a point, and maybe an exponent. -/
def decimal? (t : Text) : Option Binary64 := do
  let (whole, rest) := spanDigits t
  let (places, rest) :=
    match rest with
    | .scalar '.' :: rest => spanDigits rest
    | _ => ([], rest)
  let digits := digitValues (whole ++ places)
  if digits.isEmpty then none
  else return Binary64.ofDecimal digits ((← exponent? rest) - places.length)

def unsignedReal? (t : Text) : Option Binary64 :=
  let word := t.map fun
    | .scalar c => .scalar c.toLower
    | p => p
  if word = Text.ofString "inf" ∨ word = Text.ofString "infinity" then some Binary64.infinity
  else if word = Text.ofString "nan" then some Binary64.notNumber
  else decimal? t

def real? (t : Text) : Option Binary64 :=
  let (negative, rest) := signed (plain t)
  (unsignedReal? rest).map fun x => if negative then x.negate else x

end Spelled

end LibraryDescriptor
