import LibraryDescriptor.Text.Numeral
import LibraryDescriptor.Yaml.PlainScalar

/-!
# Quoted scalars

Between single quotes only the quote itself has to be written twice; between double quotes a
backslash introduces an escape. Line ends are folded as in plain scalars.
-/

namespace LibraryDescriptor

namespace Yaml

namespace QuotedScalar

def simpleEscape? : Char → Option Char
  | '0' => some '\x00'
  | 'a' => some '\x07'
  | 'b' => some '\x08'
  | 't' | '\t' => some '\t'
  | 'n' => some '\n'
  | 'v' => some '\x0b'
  | 'f' => some '\x0c'
  | 'r' => some '\r'
  | 'e' => some '\x1b'
  | ' ' => some ' '
  | '"' => some '"'
  | '\\' => some '\\'
  | '/' => some '/'
  | 'N' => some '\x85'
  | '_' => some '\xa0'
  | 'L' => some '\u2028'
  | 'P' => some '\u2029'
  | _ => none

/-- The number of hexadecimal digits after a letter. -/
def escapeWidth? : Char → Option Nat
  | 'x' => some 2
  | 'u' => some 4
  | 'U' => some 8
  | _ => none

def codePoint (n : Nat) : Except YamlError CodePoint :=
  match CodePoint.ofNat? n with
  | some p => .ok p
  | none => .error (.unfit (if n < 0x80000000 then .notCodePoint else .hugeCodePoint))

def hexEscape (width : Nat) (c : Cursor) : Except YamlError (CodePoint × Cursor) :=
  let digits := c.rest.take width
  match digits.mapM hexDigit? with
  | some values =>
    if values.length < width then .error .malformed
    else do return (← codePoint (values.foldl (fun n d => 16 * n + d) 0), c.skip width)
  | none => .error .malformed

/-- The empty lines ahead, and the place after them and the blanks that follow. -/
def emptyLines : Nat → Cursor → List Char → Except YamlError (List Char × Cursor)
  | 0, c, found => .ok (found, c)
  | fuel + 1, c, found =>
    if c.atSeparator then .error .malformed
    else
      let c := c.skipWhile fun d => d == ' ' || d == '\t'
      if isBreak c.peek then emptyLines fuel c.next (found ++ [breakText c.peek])
      else .ok (found, c)

def gap (c : Cursor) : Except YamlError (List Char × Cursor) :=
  let (blanks, c) := c.span fun d => d == ' ' || d == '\t'
  if isBreak c.peek then do
    let (breaks, after) ← emptyLines (c.rest.length + 1) c.next []
    return (PlainScalar.fold (breakText c.peek) breaks, after)
  else .ok (blanks, c)

/-- What an escape denotes, and the place after it. A line end that is escaped counts as nothing. -/
def escape (c : Cursor) : Except YamlError (Text × Cursor) :=
  match simpleEscape? c.peek, escapeWidth? c.peek with
  | some d, _ => .ok ([.scalar d], c.next)
  | none, some width => do
    let (p, after) ← hexEscape width c.next
    return ([p], after)
  | none, none =>
    if isBreak c.peek then do
      let (breaks, after) ← emptyLines (c.rest.length + 1) c.next []
      return (toText breaks, after)
    else .error .malformed

def scanFrom (quote : Char) : Nat → Text → Cursor → Except YamlError (Text × Cursor)
  | 0, _, _ => .error .malformed
  | fuel + 1, before, c =>
    let d := c.peek
    if d == '\x00' then .error .malformed
    else if d == quote then
      if quote == '\'' && c.peekAt 1 == '\'' then
        scanFrom quote fuel (before ++ [.scalar '\'']) (c.skip 2)
      else .ok (before, c.next)
    else if quote == '"' && d == '\\' then do
      let (found, after) ← escape c.next
      scanFrom quote fuel (before ++ found) after
    else if isBlankOrEnd d then do
      let (found, after) ← gap c
      scanFrom quote fuel (before ++ toText found) after
    else scanFrom quote fuel (before ++ [.scalar d]) c.next

def scan (c : Cursor) : Except YamlError (Text × Cursor) :=
  scanFrom c.peek (c.rest.length + 1) [] c.next

end QuotedScalar

end Yaml

end LibraryDescriptor
