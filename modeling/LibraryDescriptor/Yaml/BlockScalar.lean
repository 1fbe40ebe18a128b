import LibraryDescriptor.Yaml.Cursor

/-!
# Block scalars

A block scalar is made of the indented lines after a `|` or a `>`. Under `>` the end of a line
between two lines that start with text counts as a space.
-/

namespace LibraryDescriptor

namespace Yaml

namespace BlockScalar

/-- What becomes of the line ends after the last line with text. -/
inductive Chomping where
  /-- None is kept. -/
  | strip
  /-- One is kept. -/
  | clip
  /-- All are kept. -/
  | keep
  deriving DecidableEq

def chomping? : Char → Option Chomping
  | '+' => some .keep
  | '-' => some .strip
  | _ => none

def increment? (c : Char) : Option Nat := if c.isDigit then some (c.toNat - 48) else none

/-- The two indicators after the `|` or `>`, in either order, and the place after them. -/
def indicators (c : Cursor) : Option Chomping × Option Nat × Cursor :=
  match chomping? c.peek, increment? c.peek with
  | some chomping, _ =>
    let c := c.next
    match increment? c.peek with
    | some n => (some chomping, some n, c.next)
    | none => (some chomping, none, c)
  | none, some n =>
    let c := c.next
    match chomping? c.peek with
    | some chomping => (some chomping, some n, c.next)
    | none => (none, some n, c)
  | none, none => (none, none, c)

/-- The indentation of the first line with text, if it is more than that of empty lines before it;
the line ends of these; and the place after them. -/
def indentation : Nat → Cursor → Nat → List Char → Nat × List Char × Cursor
  | 0, c, widest, breaks => (widest, breaks, c)
  | fuel + 1, c, widest, breaks =>
    if c.peek == ' ' then
      let c := c.next
      indentation fuel c (max widest c.column) breaks
    else if isBreak c.peek then indentation fuel c.next widest (breaks ++ [breakText c.peek])
    else (widest, breaks, c)

def skipIndent (indent : Nat) : Nat → Cursor → Cursor
  | 0, c => c
  | fuel + 1, c => if c.column < indent && c.peek == ' ' then skipIndent indent fuel c.next else c

/-- The line ends of empty lines, and the place after them and the indentation that follows. -/
def emptyLines (indent : Nat) : Nat → Cursor → List Char → List Char × Cursor
  | 0, c, breaks => (breaks, c)
  | fuel + 1, c, breaks =>
    let c := skipIndent indent indent c
    if isBreak c.peek then emptyLines indent fuel c.next (breaks ++ [breakText c.peek])
    else (breaks, c)

/-- The text of the lines so far, the last line end, and the empty lines after it. -/
structure Lines where
  text : List Char
  lastBreak : List Char
  breaks : List Char
  after : Cursor

def lines (folded : Bool) (indent : Nat) : Nat → Lines → Lines
  | 0, l => l
  | fuel + 1, l =>
    let c := l.after
    if c.column != indent || c.peek == '\x00' then l
    else
      let startsText (c : Cursor) : Bool := c.peek != ' ' && c.peek != '\t'
      let (found, ending) := c.span fun d => !isBreakOrEnd d
      let lastBreak := if isBreak ending.peek then [breakText ending.peek] else []
      let (breaks, after) := emptyLines indent (ending.rest.length + 1) ending.skipBreak []
      let goesOn := after.column == indent && after.peek != '\x00'
      let joint :=
        if !goesOn then []
        else if folded && lastBreak == ['\n'] && startsText c && startsText after then
          if breaks.isEmpty then [' '] else []
        else lastBreak
      lines folded indent fuel ⟨l.text ++ l.breaks ++ found ++ joint, lastBreak, breaks, after⟩

/-- A scalar at its `|` or `>`, and the place after it. The block around it is indented to
`outer - 1`. -/
def scan (outer : Nat) (c : Cursor) : Except YamlError (Text × Cursor) := do
  let folded := c.peek == '>'
  let (chomping, increment, c) := indicators c.next
  if increment == some 0 then throw .malformed
  if !(isBreakOrEnd c.peek || c.peek == ' ') then throw .malformed
  let c ← c.skipLine
  let least := max outer 1
  let fuel := c.rest.length + 1
  let (indent, breaks, c) :=
    match increment with
    | none =>
      let (widest, breaks, c) := indentation fuel c 0 []
      (max least widest, breaks, c)
    | some n =>
      let indent := least + n - 1
      let (breaks, c) := emptyLines indent fuel c []
      (indent, breaks, c)
  let l := lines folded indent fuel ⟨[], [], breaks, c⟩
  let ending :=
    match chomping with
    | some .strip => []
    | none | some .clip => l.lastBreak
    | some .keep => l.lastBreak ++ l.breaks
  return (toText (l.text ++ ending), l.after)

end BlockScalar

end Yaml

end LibraryDescriptor
