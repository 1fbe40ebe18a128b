import LibraryDescriptor.Syntax.Tree
import LibraryDescriptor.Token.Scanner

/-!
# Reading tokens

A parser takes tokens from the front of a sequence or fails with a fault at the place of a token.
It never gets past the end of the text, which stands behind the last token.

* `Parser` and its primitives — `current?`, `advance`, `expect`, `endStatement`, ….
* `BinaryOperator.ofLexeme?` and its siblings — the operators that a token can stand for.
-/

namespace LibraryDescriptor

abbrev Parser (α : Type) := StateT Tokens (Except SourceError) α

namespace Tokens

def current? (tokens : Tokens) : Option Lexeme :=
  match tokens.ahead with
  | [] => none
  | token :: _ => some token.lexeme

def mark (tokens : Tokens) : Mark :=
  match tokens.ahead with
  | [] => tokens.finish
  | token :: _ => token.mark

def advance (tokens : Tokens) : Tokens := { tokens with ahead := tokens.ahead.tail }

end Tokens

/-!
## Primitives

What is next is seen by `is…`, taken by `accept…` if it is the given token, and taken by `expect…`,
which fails otherwise.
-/

namespace Parser

def current? : Parser Found := do return (← get).current?

def mark : Parser Mark := do return (← get).mark

def advance : Parser Unit := modify Tokens.advance

def failAt {α : Type} (mark : Mark) (fault : SyntaxFault) : Parser α :=
  throw (.syntactic mark.position fault)

def fail {α : Type} (fault : SyntaxFault) : Parser α := do failAt (← mark) fault

def failFound {α : Type} (fault : Found → SyntaxFault) : Parser α := do fail (fault (← current?))

def isNext (lexeme : Lexeme) : Parser Bool := do return (← current?) == some lexeme

def isMark (p : Punctuator) : Parser Bool := isNext (.punctuator p)

def isWord (k : Keyword) : Parser Bool := isNext (.keyword k)

def atEnd : Parser Bool := do return (← current?).isNone

def accept (p : Punctuator) : Parser Bool := do
  if ← isMark p then
    advance
    return true
  else return false

def acceptWord (k : Keyword) : Parser Bool := do
  if ← isWord k then
    advance
    return true
  else return false

def acceptContextual (word : Text) : Parser Bool := do
  if ← isNext (.identifier word) then
    advance
    return true
  else return false

def expect (p : Punctuator) : Parser Unit := do
  unless ← accept p do failFound (.expected p.spelling)

def expectWord (k : Keyword) : Parser Unit := do
  unless ← acceptWord k do failFound (.expected k.spelling)

def expectContextual (word : Text) : Parser Unit := do
  unless ← acceptContextual word do failFound (.expected word)

def expectIdentifier : Parser Text := do
  match ← current? with
  | some (.identifier name) => do
    advance
    return name
  | _ => failFound .expectedIdentifier

/-- Take a name in a place where reserved words are names too. -/
def expectPropertyName : Parser Text := do
  match ← current? with
  | some (.identifier name) => do
    advance
    return name
  | some (.keyword word) => do
    advance
    return word.spelling
  | _ => failFound .expectedPropertyName

def expectString : Parser Text := do
  match ← current? with
  | some (.string value) => do
    advance
    return value
  | _ => failFound .expectedString

def numberOf (raw : Text) : Parser Number :=
  match Numeral.value? raw with
  | some value => return value
  | none => throw (.unreadableNumber raw)

/-- End a statement: at a semicolon, which is taken, or where one is implied, that is in front of a
closing brace, at the end, and after a line break. -/
def endStatement : Parser Unit := do
  unless ← accept .semicolon do
    let implied := (← isMark .braceClose) || (← atEnd) || (← mark).afterBreak
    unless implied do failFound (.expected Punctuator.semicolon.spelling)

def refusePattern : Parser Unit := do
  if (← isMark .bracketOpen) || (← isMark .braceOpen) then fail (.unsupported .destructuring)

end Parser

/-! ## Operators as tokens -/

def BinaryOperator.ofLexeme? : Lexeme → Option BinaryOperator
  | .keyword .instanceof => some .instanceOf
  | .keyword .in => some .isIn
  | .punctuator mark =>
    match mark with
    | .nullish => some .nullish
    | .or => some .or
    | .and => some .and
    | .bar => some .bitOr
    | .caret => some .bitXor
    | .ampersand => some .bitAnd
    | .equal => some .equal
    | .notEqual => some .notEqual
    | .strictEqual => some .strictEqual
    | .strictNotEqual => some .strictNotEqual
    | .less => some .less
    | .greater => some .greater
    | .lessEqual => some .lessEqual
    | .greaterEqual => some .greaterEqual
    | .shiftLeft => some .shiftLeft
    | .shiftRight => some .shiftRight
    | .shiftRightUnsigned => some .shiftRightUnsigned
    | .plus => some .add
    | .minus => some .subtract
    | .star => some .multiply
    | .slash => some .divide
    | .percent => some .remainder
    | .power => some .power
    | _ => none
  | _ => none

def UnaryOperator.ofLexeme? : Lexeme → Option UnaryOperator
  | .punctuator .bang => some .not
  | .punctuator .tilde => some .bitNot
  | .punctuator .plus => some .plus
  | .punctuator .minus => some .minus
  | .keyword .typeof => some .typeOf
  | .keyword .void => some .void
  | .keyword .delete => some .delete
  | _ => none

def UpdateOperator.ofLexeme? : Lexeme → Option UpdateOperator
  | .punctuator .increment => some .increment
  | .punctuator .decrement => some .decrement
  | _ => none

def AssignmentOperator.ofLexeme? : Lexeme → Option AssignmentOperator
  | .punctuator mark =>
    match mark with
    | .assign => some .assign
    | .addAssign => some .add
    | .subtractAssign => some .subtract
    | .multiplyAssign => some .multiply
    | .divideAssign => some .divide
    | .remainderAssign => some .remainder
    | .powerAssign => some .power
    | .shiftLeftAssign => some .shiftLeft
    | .shiftRightAssign => some .shiftRight
    | .shiftRightUnsignedAssign => some .shiftRightUnsigned
    | .bitAndAssign => some .bitAnd
    | .bitOrAssign => some .bitOr
    | .bitXorAssign => some .bitXor
    | .andAssign => some .and
    | .orAssign => some .or
    | .nullishAssign => some .nullish
    | _ => none
  | _ => none

def VariableKind.ofLexeme? : Lexeme → Option VariableKind
  | .keyword .var => some .var
  | .keyword .let => some .let
  | .keyword .const => some .const
  | _ => none

end LibraryDescriptor
