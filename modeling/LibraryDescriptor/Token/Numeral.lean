import LibraryDescriptor.Token.StringLiteral

/-!
# Numeric literals

* `Numeral.scan` — the spelling of a literal at the start of a text.
* `Numeral.value?` — the number that a spelling denotes.

Digits of every script belong to a literal, but only decimal ones have a value.
-/

namespace LibraryDescriptor

def isIdentifierStart (c : Char) : Bool := isLetter c || c == '$' || c == '_'

def isIdentifierPart (c : Char) : Bool := isLetter c || isNumeric c || c == '$' || c == '_'

namespace Numeral

/-- The digits of the base that a letter after a leading zero stands for. -/
def baseDigits? : Char → Option (Nat × (Char → Bool))
  | 'x' | 'X' => some (16, fun c => (hexDigit? c).isSome)
  | 'o' | 'O' => some (8, fun c => '0' ≤ c && c ≤ '7')
  | 'b' | 'B' => some (2, fun c => c == '0' || c == '1')
  | _ => none

/-- A text up to the first code point without a property, and the rest. -/
def spanHas (property : Char → Bool) (t : Text) : Text × Text :=
  (t.takeWhile (·.has property), t.dropWhile (·.has property))

/-- A point and the digits after it, if there is a point. -/
def scanFraction (t : Text) : Text × Text :=
  match t with
  | .scalar '.' :: rest =>
    let (digits, rest) := spanHas isDigit rest
    (.scalar '.' :: digits, rest)
  | _ => ([], t)

def scanSign (t : Text) : Text × Text :=
  match t with
  | .scalar '+' :: rest => ([.scalar '+'], rest)
  | .scalar '-' :: rest => ([.scalar '-'], rest)
  | _ => ([], t)

/-- An exponent part, if there is one; `none` when its digits are missing. -/
def scanExponent? (t : Text) : Option (Text × Text) :=
  match t with
  | .scalar e :: rest =>
    if e = 'e' ∨ e = 'E' then
      let (sign, rest) := scanSign rest
      let (digits, rest) := spanHas isDigit rest
      if digits.isEmpty then none else some (.scalar e :: sign ++ digits, rest)
    else some ([], t)
  | _ => some ([], t)

/-- A decimal literal: its spelling and the rest of the text. -/
def scanDecimal (t : Text) : Except LexicalFault (Text × Text) :=
  let (whole, rest) := spanHas isDigit t
  let (fraction, rest) := scanFraction rest
  match scanExponent? rest with
  | none => .error .missingExponent
  | some (exponent, rest) => .ok (whole ++ fraction ++ exponent, rest)

/-- A literal at the start of a text: its spelling and the rest of the text. -/
def scanSpelling (t : Text) : Except LexicalFault (Text × Text) :=
  match t with
  | .scalar '0' :: .scalar letter :: rest =>
    match baseDigits? letter with
    | some (_, isBaseDigit) =>
      let (digits, rest) := spanHas isBaseDigit rest
      if digits.isEmpty then .error .missingDigits
      else .ok (.scalar '0' :: .scalar letter :: digits, rest)
    | none => scanDecimal t
  | _ => scanDecimal t

def scan (place : Position) (t : Text) : Except SourceError (Text × Text) :=
  match scanSpelling t with
  | .error fault => .error (.lexical place fault)
  | .ok (raw, rest) =>
    if rest.headHas isIdentifierStart then
      .error (.lexical (place.advance raw.length) .identifierAfterNumber)
    else .ok (raw, rest)

/-! ## Values -/

/-- The values of decimal digits; `none` if one of them is not decimal. -/
def decimalDigits? (t : Text) : Option (List Nat) :=
  t.mapM fun
    | .scalar c => decimalDigit? c
    | .surrogate _ => none

def baseValue (base : Nat) (digits : Text) : Nat :=
  digits.foldl (fun n p => base * n + (digit p).getD 0) 0
where
  /-- The value of one digit. -/
  digit : CodePoint → Option Nat
    | .scalar c => hexDigit? c
    | .surrogate _ => none

def exponentValue? (t : Text) : Option Int :=
  match t with
  | [] => some 0
  | _ :: rest =>
    let (sign, digits) := scanSign rest
    (decimalDigits? digits).map fun ds =>
      if sign.headIs '-' then -(Binary64.digitsValue ds : Int) else Binary64.digitsValue ds

/-- The value of a decimal literal. With a point or an exponent it is a binary64 number, else an
integer. -/
def decimalValue? (t : Text) : Option Number := do
  let (whole, rest) := spanHas isDigit t
  let (fraction, exponent) := scanFraction rest
  let wholeDigits ← decimalDigits? whole
  if fraction.isEmpty && exponent.isEmpty then
    if Number.maxDecimalDigits < wholeDigits.length then none
    else some (.integer (Binary64.digitsValue wholeDigits))
  else
    let places ← decimalDigits? (fraction.drop 1)
    let power ← exponentValue? exponent
    some (.real (Binary64.ofDecimal (wholeDigits ++ places) (power - places.length)))

def value? (raw : Text) : Option Number :=
  match raw with
  | .scalar '0' :: .scalar letter :: digits =>
    match baseDigits? letter with
    | some (base, _) => some (.integer (baseValue base digits))
    | none => decimalValue? raw
  | _ => decimalValue? raw

end Numeral

end LibraryDescriptor
