import LibraryDescriptor.Text.Basic

/-!
# Operators

The operators of the language, by family. A tree that was not read from text may carry an operator
that the language does not have; `other` keeps its spelling, which is written as it stands.
-/

namespace LibraryDescriptor

/-- An operator between two operands that are both evaluated, or one of the three logical
operators. -/
inductive BinaryOperator where
  | nullish | or | and
  | bitOr | bitXor | bitAnd
  | equal | notEqual | strictEqual | strictNotEqual
  | less | greater | lessEqual | greaterEqual | instanceOf | isIn
  | shiftLeft | shiftRight | shiftRightUnsigned
  | add | subtract
  | multiply | divide | remainder
  | power
  | other (spelling : Text)
  deriving DecidableEq

namespace BinaryOperator

def spelling : BinaryOperator → Text
  | .nullish => "??"
  | .or => "||"
  | .and => "&&"
  | .bitOr => "|"
  | .bitXor => "^"
  | .bitAnd => "&"
  | .equal => "=="
  | .notEqual => "!="
  | .strictEqual => "==="
  | .strictNotEqual => "!=="
  | .less => "<"
  | .greater => ">"
  | .lessEqual => "<="
  | .greaterEqual => ">="
  | .instanceOf => "instanceof"
  | .isIn => "in"
  | .shiftLeft => "<<"
  | .shiftRight => ">>"
  | .shiftRightUnsigned => ">>>"
  | .add => "+"
  | .subtract => "-"
  | .multiply => "*"
  | .divide => "/"
  | .remainder => "%"
  | .power => "**"
  | .other spelling => spelling

def all : List BinaryOperator :=
  [.nullish, .or, .and, .bitOr, .bitXor, .bitAnd, .equal, .notEqual, .strictEqual,
   .strictNotEqual, .less, .greater, .lessEqual, .greaterEqual, .instanceOf, .isIn, .shiftLeft,
   .shiftRight, .shiftRightUnsigned, .add, .subtract, .multiply, .divide, .remainder, .power]

def ofText (t : Text) : BinaryOperator := (all.find? (·.spelling = t)).getD (.other t)

/-- How tightly an operator binds; `none` outside the language. -/
def precedence? : BinaryOperator → Option Nat
  | .nullish => some 1
  | .or => some 2
  | .and => some 3
  | .bitOr => some 4
  | .bitXor => some 5
  | .bitAnd => some 6
  | .equal | .notEqual | .strictEqual | .strictNotEqual => some 7
  | .less | .greater | .lessEqual | .greaterEqual | .instanceOf | .isIn => some 8
  | .shiftLeft | .shiftRight | .shiftRightUnsigned => some 9
  | .add | .subtract => some 10
  | .multiply | .divide | .remainder => some 11
  | .power => some 12
  | .other _ => none

/-- Whether an operator is one of the three that evaluate their right operand on demand. -/
def isLogical : BinaryOperator → Bool
  | .nullish | .or | .and => true
  | _ => false

end BinaryOperator

inductive UnaryOperator where
  | not | bitNot | plus | minus | typeOf | void | delete
  | other (spelling : Text)
  deriving DecidableEq

namespace UnaryOperator

def spelling : UnaryOperator → Text
  | .not => "!"
  | .bitNot => "~"
  | .plus => "+"
  | .minus => "-"
  | .typeOf => "typeof"
  | .void => "void"
  | .delete => "delete"
  | .other spelling => spelling

def all : List UnaryOperator := [.not, .bitNot, .plus, .minus, .typeOf, .void, .delete]

def ofText (t : Text) : UnaryOperator := (all.find? (·.spelling = t)).getD (.other t)

end UnaryOperator

/-- An operator that counts its operand up or down. -/
inductive UpdateOperator where
  | increment | decrement
  | other (spelling : Text)
  deriving DecidableEq

namespace UpdateOperator

def spelling : UpdateOperator → Text
  | .increment => "++"
  | .decrement => "--"
  | .other spelling => spelling

def all : List UpdateOperator := [.increment, .decrement]

def ofText (t : Text) : UpdateOperator := (all.find? (·.spelling = t)).getD (.other t)

end UpdateOperator

inductive AssignmentOperator where
  | assign
  | add | subtract | multiply | divide | remainder | power
  | shiftLeft | shiftRight | shiftRightUnsigned
  | bitAnd | bitOr | bitXor
  | and | or | nullish
  | other (spelling : Text)
  deriving DecidableEq

namespace AssignmentOperator

def spelling : AssignmentOperator → Text
  | .assign => "="
  | .add => "+="
  | .subtract => "-="
  | .multiply => "*="
  | .divide => "/="
  | .remainder => "%="
  | .power => "**="
  | .shiftLeft => "<<="
  | .shiftRight => ">>="
  | .shiftRightUnsigned => ">>>="
  | .bitAnd => "&="
  | .bitOr => "|="
  | .bitXor => "^="
  | .and => "&&="
  | .or => "||="
  | .nullish => "??="
  | .other spelling => spelling

def all : List AssignmentOperator :=
  [.assign, .add, .subtract, .multiply, .divide, .remainder, .power, .shiftLeft, .shiftRight,
   .shiftRightUnsigned, .bitAnd, .bitOr, .bitXor, .and, .or, .nullish]

def ofText (t : Text) : AssignmentOperator := (all.find? (·.spelling = t)).getD (.other t)

end AssignmentOperator

end LibraryDescriptor
