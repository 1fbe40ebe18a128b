import LibraryDescriptor.Number.Basic
import LibraryDescriptor.Yaml.BlockScalar
import LibraryDescriptor.Yaml.QuotedScalar

/-!
# YAML tokens

* `Token` — brackets, indicators, properties and scalars; the brackets of blocks are derived from
  the indentation.
* `ScanState.start?` — a scan at the start of a text.
* `Scanner.peek`, `Scanner.pop` — the next token.

A key need not be announced: whether a node is a key shows only at the colon after it. So the place
before each node that may be one is kept as a `PendingKey`, and the token for the key is inserted
there when the colon comes. A scan goes no further than it has to: a token is known once nothing can
be inserted before it, and what is wrong with the text behind does not matter before it is read.
-/

namespace LibraryDescriptor

namespace Yaml

inductive Token where
  | documentStart
  | documentEnd
  /-- The directive for a version, with its first number. -/
  | versionDirective (major : Nat)
  /-- The directive for the tags with a given handle. -/
  | tagDirective (handle : Text) (expansion : Text)
  /-- Any other directive. -/
  | otherDirective
  | blockSequenceStart
  | blockMappingStart
  | blockEnd
  | flowSequenceStart
  | flowSequenceEnd
  | flowMappingStart
  | flowMappingEnd
  | key
  | value
  | blockEntry
  | flowEntry
  | aliasOf (name : Text)
  | anchor (name : Text)
  /-- A tag; without a handle it is written in full. -/
  | tag (handle : Option Text) (name : Text)
  | scalar (value : Text) (isPlain : Bool)
  deriving DecidableEq

/-- A node that may be a key. -/
structure PendingKey where
  /-- The nesting of brackets it stands in. -/
  level : Nat
  /-- The number of tokens before it. -/
  position : Nat
  /-- Whether the place admits nothing but a key. -/
  isRequired : Bool
  index : Nat
  line : Nat
  column : Nat

structure ScanState where
  cursor : Cursor
  /-- The tokens that are scanned and not yet taken. -/
  tokens : List Token
  /-- The number of tokens that were taken. -/
  taken : Nat
  /-- The nesting of brackets. -/
  level : Nat
  /-- The columns of the blocks around, the innermost first. -/
  indents : List Nat
  /-- Whether a key can stand here without being announced. -/
  allowsKey : Bool
  pending : List PendingKey
  /-- Whether the scan has reached the end of the text. -/
  isDone : Bool

abbrev Scanner := StateT ScanState (Except YamlError)

namespace ScanState

def position (s : ScanState) : Nat := s.taken + s.tokens.length

/-- The least column of what belongs to the innermost block. -/
def inside (s : ScanState) : Nat :=
  match s.indents with
  | [] => 0
  | column :: _ => column + 1

/-- A scan with one more token, which has a given number of tokens before it. -/
def insert (s : ScanState) (position : Nat) (t : Token) : ScanState :=
  { s with tokens := s.tokens.insertIdx (position - s.taken) t }

end ScanState

namespace Scanner

/-! ## State -/

def cursor : Scanner Cursor := do return (← get).cursor

def moveTo (c : Cursor) : Scanner Unit := modify fun s => { s with cursor := c }

def emit (t : Token) : Scanner Unit := modify fun s => { s with tokens := s.tokens ++ [t] }

def inFlow : Scanner Bool := do return (← get).level != 0

/-- Sets whether a key can stand here. -/
def allowKey (allows : Bool) : Scanner Unit := modify fun s => { s with allowsKey := allows }

/-- Drops the pending keys with a property; a required one is an error. -/
def dropKeys (property : PendingKey → Bool) : Scanner Unit := do
  let s ← get
  if s.pending.any fun k => property k && k.isRequired then throw .malformed
  set { s with pending := s.pending.filter fun k => !property k }

/-- Drops the pending keys that the scan has left behind: a key fits on one line. -/
def dropStaleKeys : Scanner Unit := do
  let c ← cursor
  dropKeys fun k => k.line != c.line || c.index - k.index > 1024

/-- Drops the pending key between the brackets around. -/
def dropKey : Scanner Unit := do
  let level := (← get).level
  dropKeys (·.level == level)

/-- Remembers that a node which starts here may be a key. -/
def saveKey : Scanner Unit := do
  if (← get).allowsKey then
    dropKey
    modify fun s =>
      let c := s.cursor
      let isRequired := s.level == 0 && s.indents.head? == some c.column
      { s with pending :=
          ⟨s.level, s.position, isRequired, c.index, c.line, c.column⟩ :: s.pending }

/-- Ends the blocks that are indented more than a column; `none` ends all. No block ends between
brackets. -/
def endBlocks (column : Option Nat) : Scanner Unit :=
  modify fun s =>
    if s.level != 0 then s
    else
      let ended := s.indents.takeWhile fun indent => column.all (· < indent)
      { s with
        indents := s.indents.drop ended.length
        tokens := s.tokens ++ ended.map fun _ => Token.blockEnd }

/-- Starts a block at a column, unless one is there; its bracket goes before the token at
`position`. -/
def startBlock (bracket : Token) (column position : Nat) : Scanner Unit :=
  modify fun s =>
    if column < s.inside then s
    else { s.insert position bracket with indents := column :: s.indents }

def startBlockHere (bracket : Token) : Scanner Unit := do
  let s ← get
  if s.level == 0 then
    if !s.allowsKey then throw .malformed
    startBlock bracket s.cursor.column s.position

/-! ## Names and tags -/

def word (c : Cursor) : Except YamlError (List Char × Cursor) :=
  let (name, after) := c.span isWordPart
  if name.isEmpty then .error .malformed else .ok (name, after)

def anchorName (c : Cursor) : Except YamlError (Text × Cursor) := do
  let (name, after) ← word c
  let d := after.peek
  if isBlankOrEnd d || ['?', ':', ',', ']', '\x7d', '%', '@', '\x60'].contains d then
    return (toText name, after)
  else throw .malformed

/-- The bytes of escapes in a tag, each a percent sign and two digits, and the place after them. -/
def tagBytes : Nat → Cursor → List UInt8 → Except YamlError (List UInt8 × Cursor)
  | 0, c, bytes => .ok (bytes, c)
  | fuel + 1, c, bytes =>
    if c.peek != '%' then .ok (bytes, c)
    else
      match hexDigit? (c.peekAt 1), hexDigit? (c.peekAt 2) with
      | some a, some b => tagBytes fuel (c.skip 3) (bytes ++ [UInt8.ofNat (16 * a + b)])
      | _, _ => .error .malformed

def isTagPart (c : Char) : Bool := c.isAlphanum || "-;/?:@&=+$,_.!~*'()[]".toList.contains c

def tagNameFrom : Nat → Text → Cursor → Except YamlError (Text × Cursor)
  | 0, before, c => .ok (before, c)
  | fuel + 1, before, c =>
    if c.peek == '%' then do
      let (bytes, after) ← tagBytes c.rest.length c []
      match String.fromUTF8? ⟨bytes.toArray⟩ with
      | some s => tagNameFrom fuel (before ++ Text.ofString s) after
      | none => .error .malformed
    else if isTagPart c.peek then tagNameFrom fuel (before ++ [.scalar c.peek]) c.next
    else .ok (before, c)

/-- A tag without its handle, and the place after it. -/
def tagName (c : Cursor) : Except YamlError (Text × Cursor) := do
  let (name, after) ← tagNameFrom (c.rest.length + 1) [] c
  if name.isEmpty then throw .malformed
  return (name, after)

/-- The handle of a tag: `!`, or a name between two of them. -/
def tagHandle (c : Cursor) : Except YamlError (Text × Cursor) := do
  if c.peek != '!' then throw .malformed
  if c.peekAt 1 == ' ' then return (Text.ofString "!", c.next)
  let (name, after) := c.next.span isWordPart
  if after.peek != '!' then throw .malformed
  return (.scalar '!' :: toText name ++ [.scalar '!'], after.next)

def tag (c : Cursor) : Except YamlError (Token × Cursor) := do
  let d := c.peekAt 1
  let (found, after) ←
    if d == '<' then do
      let (name, after) ← tagName (c.skip 2)
      if after.peek != '>' then throw .malformed
      pure (Token.tag none name, after.next)
    else if isBlankOrEnd d then pure (Token.tag none "!", c.next)
    else do
      let ahead := c.rest.tail.takeWhile fun e => !(isBreakOrEnd e || e == ' ')
      let (handle, after) ←
        if ahead.contains '!' then tagHandle c else pure (Text.ofString "!", c.next)
      let (name, after) ← tagName after
      pure (Token.tag (some handle) name, after)
  if isBreakOrEnd after.peek || after.peek == ' ' then return (found, after)
  else throw .malformed

/-! ## Directives -/

def number (c : Cursor) : Except YamlError (Nat × Cursor) :=
  let (digits, after) := c.span Char.isDigit
  if digits.isEmpty then .error .malformed
  else if Number.maxDecimalDigits < digits.length then .error (.unfit .notNumber)
  else .ok (digits.foldl (fun n d => 10 * n + (d.toNat - 48)) 0, after)

/-- Fails unless a word ends here. -/
def checkWordEnd (c : Cursor) : Except YamlError Unit :=
  if isBreakOrEnd c.peek || c.peek == ' ' then .ok () else .error .malformed

def directive (c : Cursor) : Except YamlError (Token × Cursor) := do
  let (name, c) ← word c.next
  checkWordEnd c
  let (found, c) ←
    if name == "YAML".toList then do
      let (major, c) ← number c.skipSpaces
      if c.peek != '.' then throw .malformed
      let (_, c) ← number c.next
      checkWordEnd c
      pure (Token.versionDirective major, c)
    else if name == "TAG".toList then do
      let (handle, c) ← tagHandle c.skipSpaces
      if c.peek != ' ' then throw .malformed
      let (expansion, c) ← tagName c.skipSpaces
      checkWordEnd c
      pure (Token.tagDirective handle expansion, c)
    else pure (Token.otherDirective, c.skipWhile fun d => !isBreakOrEnd d)
  return (found, ← c.skipLine)

/-! ## Tokens -/

/-- Goes on at the next token: over blanks, comments and line ends. After a line end a key can stand
outside brackets. -/
def skipToToken : Nat → Scanner Unit
  | 0 => return
  | fuel + 1 => do
    let s ← get
    let c := s.cursor.skipSpaces.skipComment
    if isBreak c.peek then
      set { s with cursor := c.next, allowsKey := s.allowsKey || s.level == 0 }
      skipToToken fuel
    else moveTo c

def take (t : Token) : Scanner Unit := do
  moveTo (← cursor).next
  emit t

def takeNode (read : Cursor → Except YamlError (Token × Cursor)) : Scanner Unit := do
  saveKey
  allowKey false
  let (t, after) ← read (← cursor)
  moveTo after
  emit t

/-- Takes what ends all blocks: a directive or a document marker. -/
def takeTopLevel (read : Cursor → Except YamlError (Token × Cursor)) : Scanner Unit := do
  endBlocks none
  dropKey
  allowKey false
  let (t, after) ← read (← cursor)
  moveTo after
  emit t

def takeOpening (t : Token) : Scanner Unit := do
  saveKey
  modify fun s => { s with level := s.level + 1, allowsKey := true }
  take t

def takeClosing (t : Token) : Scanner Unit := do
  if (← get).level == 0 then throw .malformed
  dropKey
  modify fun s => { s with level := s.level - 1, allowsKey := false }
  take t

def takeEntry : Scanner Unit := do
  startBlockHere .blockSequenceStart
  allowKey true
  dropKey
  take .blockEntry

def takeKey : Scanner Unit := do
  startBlockHere .blockMappingStart
  allowKey !(← inFlow)
  dropKey
  take .key

/-- Takes the colon before a value. If a key is pending, this settles it. -/
def takeValue : Scanner Unit := do
  let s ← get
  match s.pending.find? (·.level == s.level) with
  | some k =>
    set { s.insert k.position .key with
      pending := s.pending.filter (·.level != s.level)
      allowsKey := false }
    if s.level == 0 then startBlock .blockMappingStart k.column k.position
  | none =>
    startBlockHere .blockMappingStart
    allowKey !(← inFlow)
    dropKey
  take .value

def takeBlockScalar : Scanner Unit := do
  allowKey true
  dropKey
  let s ← get
  let (text, after) ← BlockScalar.scan s.inside s.cursor
  moveTo after
  emit (.scalar text false)

def takePlain : Scanner Unit := do
  saveKey
  let s ← get
  let found := PlainScalar.scan (s.level != 0) s.inside s.cursor
  allowKey found.allowsKey
  moveTo found.after
  emit (.scalar (toText found.text) true)

/-- The characters that start something else than a plain scalar. -/
def indicators : List Char := "-?:,[]\x7b\x7d#&*!|>'\"%@\x60".toList

def startsPlain (c : Cursor) (isFlow : Bool) : Bool :=
  let d := c.peek
  !(isBlankOrEnd d || indicators.contains d) ||
    (!isBlankOrEnd (c.peekAt 1) && (d == '-' || (!isFlow && (d == '?' || d == ':'))))

/-- Scans the next token; at the end, what closes the blocks. -/
def scanToken : Scanner Unit := do
  let start ← cursor
  skipToToken (start.rest.length + 1)
  dropStaleKeys
  let c ← cursor
  endBlocks (some c.column)
  let isFlow ← inFlow
  let endsWord := isBlankOrEnd (c.peekAt 1)
  let d := c.peek
  if d == '\x00' then
    endBlocks none
    dropKey
    modify fun s => { s with pending := [], isDone := true }
  else if d == '%' && c.column == 0 then takeTopLevel directive
  else if c.column == 0 && c.atMarker '-' then
    takeTopLevel fun c => .ok (.documentStart, c.skip 3)
  else if c.column == 0 && c.atMarker '.' then
    takeTopLevel fun c => .ok (.documentEnd, c.skip 3)
  else if d == '[' then takeOpening .flowSequenceStart
  else if d == '\x7b' then takeOpening .flowMappingStart
  else if d == ']' then takeClosing .flowSequenceEnd
  else if d == '\x7d' then takeClosing .flowMappingEnd
  else if d == ',' then
    allowKey true
    dropKey
    take .flowEntry
  else if d == '-' && endsWord then takeEntry
  else if d == '?' && (isFlow || endsWord) then takeKey
  else if d == ':' && (isFlow || endsWord) then takeValue
  else if d == '*' then
    takeNode fun c => do
      let (name, after) ← anchorName c.next
      return (.aliasOf name, after)
  else if d == '&' then
    takeNode fun c => do
      let (name, after) ← anchorName c.next
      return (.anchor name, after)
  else if d == '!' then takeNode tag
  else if (d == '|' || d == '>') && !isFlow then takeBlockScalar
  else if d == '\'' || d == '"' then
    takeNode fun c => do
      let (text, after) ← QuotedScalar.scan c
      return (.scalar text false, after)
  else if startsPlain c isFlow then takePlain
  else throw .malformed

/-- Whether the next token is not known yet: none is scanned, or the next one may be a key. -/
def needsMore : Scanner Bool := do
  if (← get).isDone then return false
  if (← get).tokens.isEmpty then return true
  dropStaleKeys
  let s ← get
  return s.pending.any (·.position == s.taken)

def settle : Nat → Scanner Unit
  | 0 => throw .malformed
  | fuel + 1 => do
    if ← needsMore then
      scanToken
      settle fuel

/-- The next token; none at the end. -/
def peek : Scanner (Option Token) := do
  if ← needsMore then settle ((← cursor).rest.length + 2)
  return (← get).tokens.head?

def pop : Scanner Unit :=
  modify fun s => { s with tokens := s.tokens.tail, taken := s.taken + 1 }

end Scanner

/-- A text without a byte order mark at its start. -/
def withoutMark : List Char → List Char
  | '\ufeff' :: rest => rest
  | cs => cs

/-- A scan at the start of a text, unless the text has characters that cannot be in one. -/
def ScanState.start? (text : Text) : Option ScanState := do
  let cs := (← text.toString?).toList
  if cs.all isAllowed then
    some ⟨.start (withoutMark cs), [], 0, 0, [], true, [], false⟩
  else none

end Yaml

end LibraryDescriptor
