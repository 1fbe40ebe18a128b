import LibraryDescriptor.Number.Spelled
import LibraryDescriptor.Token.Fault

/-!
# String literals

* `StringLiteral.quote` — a text as a literal between single quotes.
* `StringLiteral.scan` — the text that a literal denotes, read code point by code point.

A literal ends at its own quote and cannot hold a line feed or a carriage return; a backslash
introduces an escape.
-/

namespace LibraryDescriptor

namespace StringLiteral

/-! ## Writing -/

def quotePoint : CodePoint → Text
  | .scalar '\\' => "\\\\"
  | .scalar '\'' => "\\'"
  | .scalar '\n' => "\\n"
  | .scalar '\r' => "\\r"
  | .scalar '\t' => "\\t"
  | .scalar '\x08' => "\\b"
  | .scalar '\x0c' => "\\f"
  | .scalar '\x0b' => "\\v"
  | .scalar '\u2028' => "\\u2028"
  | .scalar '\u2029' => "\\u2029"
  | .scalar c =>
    if c.toNat < 0x20 || c.toNat == 0x7F then Text.ofString "\\x" ++ Text.hexDigits 2 c.toNat
    else [.scalar c]
  | .surrogate offset => [.surrogate offset]

def quote (value : Text) : Text :=
  .scalar '\'' :: value.flatMap quotePoint ++ [.scalar '\'']

/-! ## Reading -/

/-- The code point of an escape with braces that starts at `place`. A number that is no code point
is a fault, one that does not even fit a signed 32-bit word an error of its own. -/
def bracedPoint (place : Position) (digits : Text) : Except SourceError CodePoint :=
  match Spelled.integer? 16 digits with
  | none => .error (.lexical place .invalidUnicodeEscape)
  | some n =>
    if n < -0x80000000 ∨ 0x80000000 ≤ n then .error .escapeOutOfRange
    else
      match if n < 0 then none else CodePoint.ofNat? n.toNat with
      | some p => .ok p
      | none => .error (.lexical place .invalidUnicodeEscape)

def simpleEscape? : Char → Option Char
  | 'n' => some '\n'
  | 't' => some '\t'
  | 'r' => some '\r'
  | 'b' => some '\x08'
  | 'f' => some '\x0c'
  | 'v' => some '\x0b'
  | '0' => some '\x00'
  | _ => none

/-- What a reader of a literal is in the middle of. -/
inductive State where
  /-- Between two items of the literal. -/
  | plain
  /-- After a backslash. -/
  | escape
  /-- In front of `missing + 1` hexadecimal digits of an escape that starts at `place`. -/
  | hex (place : Position) (missing value : Nat)
  /-- After `\u` of an escape that starts at `place`. -/
  | unicode (place : Position)
  /-- Between braces, after the given code points (the last one first). -/
  | braced (place : Position) (digits : Text)
  /-- In front of the line feed of an escaped line break. -/
  | lineFeed

/-- A literal that has been read: what it denotes, and where it ends. -/
structure Scanned where
  value : Text
  position : Position
  rest : Text

def Scanned.cons (p : CodePoint) (s : Scanned) : Scanned := { s with value := p :: s.value }

/-- What follows a backslash at `place`: the next state, and the code point that is complete with
this one. -/
def startEscape (place : Position) (p : CodePoint) (rest : Text) :
    Except SourceError (State × Option CodePoint) :=
  match p with
  | .surrogate offset => .ok (.plain, some (.surrogate offset))
  | .scalar c =>
    if c = '0' ∧ rest.headHas isDigit then .error (.lexical place (.octalEscape p))
    else if let some d := simpleEscape? c then .ok (.plain, some (.scalar d))
    else if c = '\r' ∧ rest.headIs '\n' then .ok (.lineFeed, none)
    else if isLineTerminator c then .ok (.plain, none)
    else if c = 'x' then .ok (.hex place 1 0, none)
    else if c = 'u' then .ok (.unicode place, none)
    else if isDigit c then .error (.lexical place (.octalEscape p))
    else .ok (.plain, some p)

/-- One hexadecimal digit of an escape: the next state, and the code point if it is complete. -/
def stepHex (place : Position) (missing value : Nat) (p : CodePoint) :
    Except SourceError (State × Option CodePoint) :=
  match p with
  | .surrogate _ => .error (.lexical place .invalidHexEscape)
  | .scalar c =>
    match hexDigit? c with
    | none => .error (.lexical place .invalidHexEscape)
    | some d =>
      match missing with
      | missing + 1 => .ok (.hex place missing (16 * value + d), none)
      | 0 => .ok (.plain, CodePoint.ofNat? (16 * value + d))

def scan (delimiter : Char) (opened : Position) :
    State → Position → Text → Except SourceError Scanned
  | .plain, _, [] | .escape, _, [] | .lineFeed, _, [] =>
    .error (.lexical opened .unterminatedString)
  | .hex place _ _, _, [] | .unicode place, _, [] =>
    .error (.lexical place .invalidHexEscape)
  | .braced place _, _, [] => .error (.lexical place .invalidUnicodeEscape)
  | .plain, place, p :: rest =>
    if p.is delimiter then .ok ⟨[], place.step p rest, rest⟩
    else if p.is '\n' || p.is '\r' then .error (.lexical opened .unterminatedString)
    else if p.is '\\' then scan delimiter opened .escape (place.step p rest) rest
    else (scan delimiter opened .plain (place.step p rest) rest).map (.cons p)
  | .escape, place, p :: rest => do
    let (state, value) ← startEscape place p rest
    let scanned ← scan delimiter opened state (place.step p rest) rest
    .ok (value.elim scanned scanned.cons)
  | .hex start missing value, place, p :: rest => do
    let (state, value) ← stepHex start missing value p
    let scanned ← scan delimiter opened state (place.step p rest) rest
    .ok (value.elim scanned scanned.cons)
  | .unicode start, place, p :: rest =>
    if p.is '{' then scan delimiter opened (.braced start []) (place.step p rest) rest
    else do
      let (state, value) ← stepHex start 3 0 p
      let scanned ← scan delimiter opened state (place.step p rest) rest
      .ok (value.elim scanned scanned.cons)
  | .braced start digits, place, p :: rest =>
    if p.is '}' then
      if digits.isEmpty then .error (.lexical start .invalidUnicodeEscape)
      else do
        let value ← bracedPoint start digits.reverse
        let scanned ← scan delimiter opened .plain (place.step p rest) rest
        .ok (scanned.cons value)
    else scan delimiter opened (.braced start (p :: digits)) (place.step p rest) rest
  | .lineFeed, place, p :: rest => scan delimiter opened .plain (place.step p rest) rest

end StringLiteral

end LibraryDescriptor
