import LibraryDescriptor.Text.Basic

/-!
# Cursors in a YAML text

* `YamlError` — why a text has no value.
* `Cursor` — what is left of a text, with the place where it starts.
* `isBreak`, `isBlankOrEnd`, … — the classes of characters. The end of a text reads as a NUL
  character, which no text holds.

Lines end in a line feed, a next line, or a line or paragraph separator; a carriage return does not
occur, since files are read with unified line ends.
-/

namespace LibraryDescriptor

namespace Yaml

/-- A scalar whose text does not fit its tag. -/
inductive ScalarFault where
  | notNumber | emptyNumber | notBoolean | notTimestamp | noSuchDate
  /-- A number between colons stands for more sixtieths than a real number can hold. -/
  | hugeNumber
  /-- A timestamp is not written as a scalar. -/
  | notScalar
  /-- A mapping stands for the default value of itself. -/
  | endless
  /-- An escape denotes no code point. -/
  | notCodePoint
  /-- An escape denotes a number that is not even near a code point. -/
  | hugeCodePoint
  deriving DecidableEq

/-- Why a text has no value. -/
inductive YamlError where
  /-- The text is not one document, or has tags without a meaning. -/
  | malformed
  | unfit (fault : ScalarFault)
  deriving DecidableEq

/-! ## Characters -/

def isBreak (c : Char) : Bool := c == '\n' || c == '\x85' || c == '\u2028' || c == '\u2029'

def isBreakOrEnd (c : Char) : Bool := isBreak c || c == '\x00'

def isBlankOrEnd (c : Char) : Bool := isBreakOrEnd c || c == ' ' || c == '\t'

def isAllowed (c : Char) : Bool :=
  c == '\t' || c == '\n' || c == '\r' || (' ' ≤ c && c ≤ '~') || c == '\x85' ||
    ('\xa0' ≤ c && c ≤ '\ud7ff') || ('\ue000' ≤ c && c ≤ '\ufffd') || 0x10000 ≤ c.toNat

def isWordPart (c : Char) : Bool := c.isAlphanum || c == '-' || c == '_'

/-- A line end as it counts in a scalar. -/
def breakText (c : Char) : Char := if c == '\x85' then '\n' else c

/-! ## Cursors -/

/-- What is left of a text, and where it starts. -/
structure Cursor where
  rest : List Char
  index : Nat
  line : Nat
  column : Nat

namespace Cursor

def start (text : List Char) : Cursor := ⟨text, 0, 0, 0⟩

def peekAt (c : Cursor) (k : Nat) : Char := c.rest.getD k '\x00'

def peek (c : Cursor) : Char := c.peekAt 0

/-- The place after the next character. A byte order mark has no width. -/
def next (c : Cursor) : Cursor :=
  match c.rest with
  | [] => c
  | d :: rest =>
    if isBreak d then ⟨rest, c.index + 1, c.line + 1, 0⟩
    else ⟨rest, c.index + 1, c.line, if d == '\ufeff' then c.column else c.column + 1⟩

def skip : Nat → Cursor → Cursor
  | 0, c => c
  | n + 1, c => skip n c.next

def span (c : Cursor) (property : Char → Bool) : List Char × Cursor :=
  let taken := c.rest.takeWhile property
  (taken, c.skip taken.length)

def skipWhile (c : Cursor) (property : Char → Bool) : Cursor := (c.span property).2

def skipSpaces (c : Cursor) : Cursor := c.skipWhile (· == ' ')

def skipComment (c : Cursor) : Cursor :=
  if c.peek == '#' then c.skipWhile fun d => !isBreakOrEnd d else c

/-- The place after a line end, if there is one. -/
def skipBreak (c : Cursor) : Cursor := if isBreak c.peek then c.next else c

def atMarker (c : Cursor) (marker : Char) : Bool :=
  c.rest.take 3 == [marker, marker, marker] && isBlankOrEnd (c.peekAt 3)

/-- Whether one of the two document markers stands ahead. -/
def atSeparator (c : Cursor) : Bool := c.atMarker '-' || c.atMarker '.'

/-- The place after the rest of a line, which may only hold a comment. -/
def skipLine (c : Cursor) : Except YamlError Cursor :=
  let c := c.skipSpaces.skipComment
  if isBreakOrEnd c.peek then .ok c.skipBreak else .error .malformed

end Cursor

def toText (cs : List Char) : Text := cs.map .scalar

end Yaml

end LibraryDescriptor
