import LibraryDescriptor.Yaml.Cursor

/-!
# Plain scalars

A plain scalar has no quotes. It may go on over several lines; a line end within it counts as a
space, and each empty line as a line end.
-/

namespace LibraryDescriptor

namespace Yaml

namespace PlainScalar

def flowStops : List Char := [',', '?', '[', ']', '\x7b', '\x7d']

/-- The characters after which a colon ends a plain scalar between brackets. -/
def colonStops : List Char := [',', '[', ']', '\x7b', '\x7d']

def colonEnds (inFlow : Bool) (rest : List Char) : Bool :=
  let c := rest.headD '\x00'
  isBlankOrEnd c || (inFlow && colonStops.contains c)

def piece (inFlow : Bool) : List Char → List Char
  | [] => []
  | c :: rest =>
    if isBlankOrEnd c || (c == ':' && colonEnds inFlow rest) ||
      (inFlow && flowStops.contains c) then []
    else c :: piece inFlow rest

/-- The empty lines ahead, and the place after them; `none` at a document marker. -/
def emptyLines : Nat → Cursor → List Char → Option (List Char) × Cursor
  | 0, c, found => (some found, c)
  | fuel + 1, c, found =>
    if c.peek == ' ' then emptyLines fuel c.next found
    else if isBreak c.peek then
      let after := c.next
      if after.atSeparator then (none, after)
      else emptyLines fuel after (found ++ [breakText c.peek])
    else (some found, c)

/-- What stands between two pieces. -/
structure Gap where
  /-- What the gap counts as; nothing when the scalar ends here. -/
  text : List Char
  crossesLine : Bool
  after : Cursor

/-- The line end `first` and the empty lines after it, folded. -/
def fold (first : Char) (breaks : List Char) : List Char :=
  if first != '\n' then first :: breaks
  else if breaks.isEmpty then [' ']
  else breaks

def gap (c : Cursor) : Gap :=
  let (blanks, c) := c.span (· == ' ')
  if !isBreak c.peek then ⟨blanks, false, c⟩
  else
    let after := c.next
    if after.atSeparator then ⟨[], true, after⟩
    else
      match emptyLines after.rest.length after [] with
      | (none, after) => ⟨[], true, after⟩
      | (some breaks, after) => ⟨fold (breakText c.peek) breaks, true, after⟩

/-- A scalar, whether a key may stand after it, and the place after it. -/
structure Scanned where
  text : List Char
  allowsKey : Bool
  after : Cursor

def scanFrom (inFlow : Bool) (indent : Nat) :
    Nat → List Char → Gap → Scanned
  | 0, before, between => ⟨before, between.crossesLine, between.after⟩
  | fuel + 1, before, between =>
    let c := between.after
    let found := piece inFlow c.rest
    if c.peek == '#' || found.isEmpty then ⟨before, between.crossesLine, c⟩
    else
      let before := before ++ between.text ++ found
      let next := gap (c.skip found.length)
      if next.text.isEmpty || next.after.peek == '#' ||
        (!inFlow && next.after.column < indent) then ⟨before, next.crossesLine, next.after⟩
      else scanFrom inFlow indent fuel before next

/-- A scalar. In a block its lines are indented at least to the column `indent`. -/
def scan (inFlow : Bool) (indent : Nat) (c : Cursor) : Scanned :=
  scanFrom inFlow indent (c.rest.length + 1) [] ⟨[], false, c⟩

end PlainScalar

end Yaml

end LibraryDescriptor
