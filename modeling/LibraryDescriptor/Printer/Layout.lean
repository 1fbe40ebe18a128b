import LibraryDescriptor.Syntax.Tree
import LibraryDescriptor.Token.StringLiteral

/-!
# Layouts

A layout is what the printer makes of a tree: lexemes with spaces and line breaks between them.
Its text is the concatenation of its pieces.

* `Piece`, `Layout` and `Layout.text`.
* `BinaryOperator.lexeme` and its siblings — the token that an operator is written as.
-/

namespace LibraryDescriptor

inductive Piece where
  | lexeme (value : Lexeme)
  | space
  /-- A line break followed by the indentation of a level. -/
  | newline (level : Nat)
  deriving DecidableEq

def Lexeme.source : Lexeme → Text
  | .string value => StringLiteral.quote value
  | lexeme => lexeme.value

/-- The indentation of a level: four spaces each. -/
def indentation (level : Nat) : Text := List.replicate (4 * level) (.scalar ' ')

def Piece.text : Piece → Text
  | .lexeme value => value.source
  | .space => [.scalar ' ']
  | .newline level => .scalar '\n' :: indentation level

abbrev Layout := List Piece

namespace Layout

def text (layout : Layout) : Text := layout.flatMap Piece.text

def name (n : Text) : Layout := [.lexeme (.identifier n)]

def word (k : Keyword) : Layout := [.lexeme (.keyword k)]

def mark (p : Punctuator) : Layout := [.lexeme (.punctuator p)]

def string (value : Text) : Layout := [.lexeme (.string value)]

def space : Layout := [.space]

def parens (layout : Layout) : Layout := mark .parenOpen ++ layout ++ mark .parenClose

def brackets (layout : Layout) : Layout := mark .bracketOpen ++ layout ++ mark .bracketClose

def commas : List Layout → Layout
  | [] => []
  | [l] => l
  | l :: ls => l ++ mark .comma ++ space ++ commas ls

def braces (level : Nat) (lines : List Layout) : Layout :=
  if lines.isEmpty then mark .braceOpen ++ mark .braceClose
  else
    mark .braceOpen ++ lines.flatMap (.newline (level + 1) :: ·) ++
      (.newline level :: mark .braceClose)

/-- Entries between braces with a comma behind each but the last. -/
def entries (level : Nat) : List Layout → Layout
  | [] => mark .braceOpen ++ mark .braceClose
  | l :: ls =>
    mark .braceOpen ++ (.newline (level + 1) :: l) ++
      ls.flatMap (fun l => mark .comma ++ (.newline (level + 1) :: l)) ++
      (.newline level :: mark .braceClose)

end Layout

/-! ## Operators as lexemes -/

def BinaryOperator.lexeme : BinaryOperator → Lexeme
  | .nullish => .punctuator .nullish
  | .or => .punctuator .or
  | .and => .punctuator .and
  | .bitOr => .punctuator .bar
  | .bitXor => .punctuator .caret
  | .bitAnd => .punctuator .ampersand
  | .equal => .punctuator .equal
  | .notEqual => .punctuator .notEqual
  | .strictEqual => .punctuator .strictEqual
  | .strictNotEqual => .punctuator .strictNotEqual
  | .less => .punctuator .less
  | .greater => .punctuator .greater
  | .lessEqual => .punctuator .lessEqual
  | .greaterEqual => .punctuator .greaterEqual
  | .instanceOf => .keyword .instanceof
  | .isIn => .keyword .in
  | .shiftLeft => .punctuator .shiftLeft
  | .shiftRight => .punctuator .shiftRight
  | .shiftRightUnsigned => .punctuator .shiftRightUnsigned
  | .add => .punctuator .plus
  | .subtract => .punctuator .minus
  | .multiply => .punctuator .star
  | .divide => .punctuator .slash
  | .remainder => .punctuator .percent
  | .power => .punctuator .power
  | .other spelling => .identifier spelling

def UnaryOperator.lexeme : UnaryOperator → Lexeme
  | .not => .punctuator .bang
  | .bitNot => .punctuator .tilde
  | .plus => .punctuator .plus
  | .minus => .punctuator .minus
  | .typeOf => .keyword .typeof
  | .void => .keyword .void
  | .delete => .keyword .delete
  | .other spelling => .identifier spelling

def UpdateOperator.lexeme : UpdateOperator → Lexeme
  | .increment => .punctuator .increment
  | .decrement => .punctuator .decrement
  | .other spelling => .identifier spelling

def AssignmentOperator.lexeme : AssignmentOperator → Lexeme
  | .assign => .punctuator .assign
  | .add => .punctuator .addAssign
  | .subtract => .punctuator .subtractAssign
  | .multiply => .punctuator .multiplyAssign
  | .divide => .punctuator .divideAssign
  | .remainder => .punctuator .remainderAssign
  | .power => .punctuator .powerAssign
  | .shiftLeft => .punctuator .shiftLeftAssign
  | .shiftRight => .punctuator .shiftRightAssign
  | .shiftRightUnsigned => .punctuator .shiftRightUnsignedAssign
  | .bitAnd => .punctuator .bitAndAssign
  | .bitOr => .punctuator .bitOrAssign
  | .bitXor => .punctuator .bitXorAssign
  | .and => .punctuator .andAssign
  | .or => .punctuator .orAssign
  | .nullish => .punctuator .nullishAssign
  | .other spelling => .identifier spelling

def VariableKind.keyword : VariableKind → Keyword
  | .var => .var
  | .let => .let
  | .const => .const

end LibraryDescriptor
