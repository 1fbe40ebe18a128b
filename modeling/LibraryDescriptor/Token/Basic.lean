import LibraryDescriptor.Text.Quoted

/-!
# Tokens

* `Position` — line and column of a code point, both counted from one.
* `Keyword`, `Punctuator` — the reserved words and the punctuators, with their spellings.
* `Lexeme` — what a token says.
* `Token`, `Tokens` — lexemes with their places; a sequence of tokens ends where the text ends.
-/

namespace LibraryDescriptor

structure Position where
  line : Nat
  column : Nat
  deriving DecidableEq, Inhabited

def isLineTerminator (c : Char) : Bool :=
  c == '\n' || c == '\r' || c == '\u2028' || c == '\u2029'

namespace Position

def start : Position := ⟨1, 1⟩

/-- The place after the code point `p`, which is followed by `rest`. A carriage return and a line
feed end one line together, so the first of them does not move. -/
def step (place : Position) (p : CodePoint) (rest : Text) : Position :=
  if p.has isLineTerminator then
    if p.is '\r' && rest.headIs '\n' then place else ⟨place.line + 1, 1⟩
  else ⟨place.line, place.column + 1⟩

/-- The place after `n` code points that end no line. -/
def advance (place : Position) (n : Nat) : Position := ⟨place.line, place.column + n⟩

end Position

inductive Keyword where
  | break | case | catch | classWord | const | continue | debugger | default | delete | do | else
  | export | extends | false | finally | for | function | if | import | in | instanceof | let
  | new | null | return | super | switch | this | throw | true | try | typeof | var | void | while
  | with | yield
  deriving DecidableEq

namespace Keyword

def spelling : Keyword → Text
  | .break => "break"
  | .case => "case"
  | .catch => "catch"
  | .classWord => "class"
  | .const => "const"
  | .continue => "continue"
  | .debugger => "debugger"
  | .default => "default"
  | .delete => "delete"
  | .do => "do"
  | .else => "else"
  | .export => "export"
  | .extends => "extends"
  | .false => "false"
  | .finally => "finally"
  | .for => "for"
  | .function => "function"
  | .if => "if"
  | .import => "import"
  | .in => "in"
  | .instanceof => "instanceof"
  | .let => "let"
  | .new => "new"
  | .null => "null"
  | .return => "return"
  | .super => "super"
  | .switch => "switch"
  | .this => "this"
  | .throw => "throw"
  | .true => "true"
  | .try => "try"
  | .typeof => "typeof"
  | .var => "var"
  | .void => "void"
  | .while => "while"
  | .with => "with"
  | .yield => "yield"

def all : List Keyword :=
  [.break, .case, .catch, .classWord, .const, .continue, .debugger, .default, .delete, .do, .else,
   .export, .extends, .false, .finally, .for, .function, .if, .import, .in, .instanceof, .let,
   .new, .null, .return, .super, .switch, .this, .throw, .true, .try, .typeof, .var, .void,
   .while, .with, .yield]

def ofText? (t : Text) : Option Keyword := all.find? (·.spelling = t)

end Keyword

inductive Punctuator where
  | shiftRightUnsignedAssign | ellipsis | strictEqual | strictNotEqual | powerAssign
  | shiftLeftAssign | shiftRightAssign | shiftRightUnsigned | andAssign | orAssign | nullishAssign
  | arrow | equal | notEqual | lessEqual | greaterEqual | and | or | nullish | optional
  | increment | decrement | addAssign | subtractAssign | multiplyAssign | divideAssign
  | remainderAssign | bitAndAssign | bitOrAssign | bitXorAssign | shiftLeft | shiftRight | power
  | braceOpen | braceClose | parenOpen | parenClose | bracketOpen | bracketClose | semicolon
  | comma | less | greater | plus | minus | star | slash | percent | ampersand | bar | caret
  | bang | tilde | question | colon | assign | dot
  deriving DecidableEq

namespace Punctuator

def spelling : Punctuator → Text
  | .shiftRightUnsignedAssign => ">>>="
  | .ellipsis => "..."
  | .strictEqual => "==="
  | .strictNotEqual => "!=="
  | .powerAssign => "**="
  | .shiftLeftAssign => "<<="
  | .shiftRightAssign => ">>="
  | .shiftRightUnsigned => ">>>"
  | .andAssign => "&&="
  | .orAssign => "||="
  | .nullishAssign => "??="
  | .arrow => "=>"
  | .equal => "=="
  | .notEqual => "!="
  | .lessEqual => "<="
  | .greaterEqual => ">="
  | .and => "&&"
  | .or => "||"
  | .nullish => "??"
  | .optional => "?."
  | .increment => "++"
  | .decrement => "--"
  | .addAssign => "+="
  | .subtractAssign => "-="
  | .multiplyAssign => "*="
  | .divideAssign => "/="
  | .remainderAssign => "%="
  | .bitAndAssign => "&="
  | .bitOrAssign => "|="
  | .bitXorAssign => "^="
  | .shiftLeft => "<<"
  | .shiftRight => ">>"
  | .power => "**"
  | .braceOpen => "\x7b"
  | .braceClose => "\x7d"
  | .parenOpen => "("
  | .parenClose => ")"
  | .bracketOpen => "["
  | .bracketClose => "]"
  | .semicolon => ";"
  | .comma => ","
  | .less => "<"
  | .greater => ">"
  | .plus => "+"
  | .minus => "-"
  | .star => "*"
  | .slash => "/"
  | .percent => "%"
  | .ampersand => "&"
  | .bar => "|"
  | .caret => "^"
  | .bang => "!"
  | .tilde => "~"
  | .question => "?"
  | .colon => ":"
  | .assign => "="
  | .dot => "."

/-- The punctuators, none after one that it extends. -/
def all : List Punctuator :=
  [.shiftRightUnsignedAssign, .ellipsis, .strictEqual, .strictNotEqual, .powerAssign,
   .shiftLeftAssign, .shiftRightAssign, .shiftRightUnsigned, .andAssign, .orAssign,
   .nullishAssign, .arrow, .equal, .notEqual, .lessEqual, .greaterEqual, .and, .or, .nullish,
   .optional, .increment, .decrement, .addAssign, .subtractAssign, .multiplyAssign, .divideAssign,
   .remainderAssign, .bitAndAssign, .bitOrAssign, .bitXorAssign, .shiftLeft, .shiftRight, .power,
   .braceOpen, .braceClose, .parenOpen, .parenClose, .bracketOpen, .bracketClose, .semicolon,
   .comma, .less, .greater, .plus, .minus, .star, .slash, .percent, .ampersand, .bar, .caret,
   .bang, .tilde, .question, .colon, .assign, .dot]

end Punctuator

inductive Lexeme where
  | identifier (name : Text)
  | keyword (word : Keyword)
  | punctuator (mark : Punctuator)
  /-- A string literal, by the text that it denotes. -/
  | string (value : Text)
  /-- A numeric literal, by its spelling. -/
  | number (raw : Text)
  deriving DecidableEq

namespace Lexeme

/-- The text of a lexeme; of a string literal, the text that it denotes. -/
def value : Lexeme → Text
  | .identifier name => name
  | .keyword word => word.spelling
  | .punctuator mark => mark.spelling
  | .string value => value
  | .number raw => raw

end Lexeme

/-- Where a token starts, and whether a line ends between it and the token before. -/
structure Mark where
  position : Position
  afterBreak : Bool
  deriving DecidableEq

structure Token where
  lexeme : Lexeme
  mark : Mark
  deriving DecidableEq

structure Tokens where
  ahead : List Token
  finish : Mark
  deriving DecidableEq

end LibraryDescriptor
