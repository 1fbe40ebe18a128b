import LibraryDescriptor.Number.Basic
import LibraryDescriptor.Syntax.Operator

/-!
# Syntax trees

The trees of the module language: one type for each syntactic category.

The trees are indexed by the type `ν` of names. A tree that was read from text, or is about to be
written, has plain texts for names; in a tree under analysis each name also knows which occurrence
it is (`Occurrence`, in `LibraryDescriptor.Syntax.Occurrence`).

* `Expression`, `Property` — expressions and the entries of object literals.
* `Declaration`, `Declarator` — functions and variables.
* `Statement` and its parts `LoopHead`, `CatchClause`, `SwitchCase`.
* `Program` — the top-level statements of a module.
* `Program.map` — a function applied to every name.
-/

namespace LibraryDescriptor

inductive Literal where
  | string (value : Text)
  | number (value : Number)
  | boolean (value : Bool)
  | null
  deriving DecidableEq

namespace Literal

def moduleName? : Literal → Option Text
  | .string value => some value
  | .number value => value.spelling?
  | .boolean true => some "True"
  | .boolean false => some "False"
  | .null => some "None"

end Literal

/-- The three ways to declare a variable. -/
inductive VariableKind where
  | var | let | const
  deriving DecidableEq

namespace VariableKind

def spelling : VariableKind → Text
  | .var => "var"
  | .let => "let"
  | .const => "const"

def ofText? (t : Text) : Option VariableKind := [.var, .let, .const].find? (·.spelling = t)

end VariableKind

/-- A name imported from another module, and the name it gets here. -/
structure ImportSpecifier (ν : Type) where
  /-- The name that the other module exports. -/
  imported : ν
  /-- The name of the binding in this module. -/
  bound : ν

structure ExportSpecifier (ν : Type) where
  /-- The name in this module, or in the module that the list is taken from. -/
  bound : ν
  /-- The name that other modules see. -/
  exported : ν

mutual

inductive Expression (ν : Type) where
  | identifier (name : ν)
  /-- A literal; numbers keep the spelling of the source. -/
  | literal (value : Literal) (raw : Option Text)
  | this
  /-- An array literal; `none` is a hole. -/
  | array (elements : List (Option (Expression ν)))
  | object (properties : List (Property ν))
  | function (name : Option ν) (params : List ν) (body : List (Statement ν))
  /-- An arrow function whose body is an expression. -/
  | arrow (params : List ν) (body : Expression ν)
  /-- An arrow function whose body is a block. -/
  | arrowBlock (params : List ν) (body : List (Statement ν))
  | unary (op : UnaryOperator) (argument : Expression ν)
  | update (op : UpdateOperator) (inFront : Bool) (argument : Expression ν)
  | binary (op : BinaryOperator) (left right : Expression ν)
  | logical (op : BinaryOperator) (left right : Expression ν)
  | assignment (op : AssignmentOperator) (left right : Expression ν)
  | conditional (test consequent alternate : Expression ν)
  | call (callee : Expression ν) (arguments : List (Expression ν))
  | new (callee : Expression ν) (arguments : List (Expression ν))
  /-- Access to a property; unless `computed`, the property is an identifier. -/
  | member (object property : Expression ν) (computed : Bool)
  | sequence (expressions : List (Expression ν))

/-- An entry of an object literal. Unless `computed`, the key is a name or a literal. -/
inductive Property (ν : Type) where
  | mk (key value : Expression ν) (computed shorthand method : Bool)

inductive Declarator (ν : Type) where
  | mk (name : ν) (init : Option (Expression ν))

inductive Declaration (ν : Type) where
  | function (name : ν) (params : List ν) (body : List (Statement ν))
  | variables (kind : VariableKind) (declarators : List (Declarator ν))

/-- What stands before the first semicolon, `in` or `of` of a loop head. -/
inductive LoopHead (ν : Type) where
  | variables (kind : VariableKind) (declarators : List (Declarator ν))
  | expression (value : Expression ν)

/-- The handler of a `try` statement. -/
inductive CatchClause (ν : Type) where
  | mk (param : Option ν) (body : List (Statement ν))

/-- A case of a `switch` statement; without a test it is the default one. -/
inductive SwitchCase (ν : Type) where
  | mk (test : Option (Expression ν)) (consequent : List (Statement ν))

inductive Statement (ν : Type) where
  | declaration (value : Declaration ν)
  | exportDeclaration (value : Declaration ν)
  /-- An export list, of this module or of the module that `source` names. -/
  | exportList (specifiers : List (ExportSpecifier ν)) (source : Option Literal)
  | importList (specifiers : List (ImportSpecifier ν)) (source : Literal)
  | expression (value : Expression ν)
  | block (body : List (Statement ν))
  | return (argument : Option (Expression ν))
  | if (test : Expression ν) (consequent : Statement ν) (alternate : Option (Statement ν))
  | for (init : Option (LoopHead ν)) (test update : Option (Expression ν)) (body : Statement ν)
  | forIn (left : LoopHead ν) (right : Expression ν) (body : Statement ν)
  | forOf (left : LoopHead ν) (right : Expression ν) (body : Statement ν)
  | while (test : Expression ν) (body : Statement ν)
  | doWhile (body : Statement ν) (test : Expression ν)
  | break
  | continue
  | throw (argument : Expression ν)
  | try (block : List (Statement ν)) (handler : Option (CatchClause ν))
      (finalizer : Option (List (Statement ν)))
  | switch (discriminant : Expression ν) (cases : List (SwitchCase ν))
  | empty

end

/-- A module: its top-level statements in order. -/
structure Program (ν : Type) where
  body : List (Statement ν)

/-! ## Parts of a declarator -/

def Declarator.name {ν : Type} : Declarator ν → ν
  | .mk name _ => name

def Declarator.init {ν : Type} : Declarator ν → Option (Expression ν)
  | .mk _ init => init

def Declaration.names {ν : Type} : Declaration ν → List ν
  | .function name _ _ => [name]
  | .variables _ declarators => declarators.map Declarator.name

/-!
## Functions of names, on trees

The categories refer to each other, so a function on them is one family that is defined together.
Its members on lists, on optional parts and on the elements of an array have `List`, `Option` and
`Elements` behind its name, here and wherever trees are walked.
-/

section Map

variable {ν μ : Type} (f : ν → μ)

mutual

def Expression.map : Expression ν → Expression μ
  | .identifier name => .identifier (f name)
  | .literal value raw => .literal value raw
  | .this => .this
  | .array elements => .array (Expression.mapElements elements)
  | .object properties => .object (Property.mapList properties)
  | .function name params body => .function (name.map f) (params.map f) (Statement.mapList body)
  | .arrow params body => .arrow (params.map f) body.map
  | .arrowBlock params body => .arrowBlock (params.map f) (Statement.mapList body)
  | .unary op argument => .unary op argument.map
  | .update op inFront argument => .update op inFront argument.map
  | .binary op left right => .binary op left.map right.map
  | .logical op left right => .logical op left.map right.map
  | .assignment op left right => .assignment op left.map right.map
  | .conditional test consequent alternate => .conditional test.map consequent.map alternate.map
  | .call callee arguments => .call callee.map (Expression.mapList arguments)
  | .new callee arguments => .new callee.map (Expression.mapList arguments)
  | .member object property computed => .member object.map property.map computed
  | .sequence expressions => .sequence (Expression.mapList expressions)

def Expression.mapList : List (Expression ν) → List (Expression μ)
  | [] => []
  | e :: es => e.map :: Expression.mapList es

def Expression.mapElements : List (Option (Expression ν)) → List (Option (Expression μ))
  | [] => []
  | none :: es => none :: Expression.mapElements es
  | some e :: es => some e.map :: Expression.mapElements es

def Property.map : Property ν → Property μ
  | .mk key value computed shorthand method => .mk key.map value.map computed shorthand method

def Property.mapList : List (Property ν) → List (Property μ)
  | [] => []
  | p :: ps => p.map :: Property.mapList ps

def Declarator.map : Declarator ν → Declarator μ
  | .mk name none => .mk (f name) none
  | .mk name (some init) => .mk (f name) (some init.map)

def Declarator.mapList : List (Declarator ν) → List (Declarator μ)
  | [] => []
  | d :: ds => d.map :: Declarator.mapList ds

def Declaration.map : Declaration ν → Declaration μ
  | .function name params body => .function (f name) (params.map f) (Statement.mapList body)
  | .variables kind declarators => .variables kind (Declarator.mapList declarators)

def LoopHead.map : LoopHead ν → LoopHead μ
  | .variables kind declarators => .variables kind (Declarator.mapList declarators)
  | .expression value => .expression value.map

def CatchClause.map : CatchClause ν → CatchClause μ
  | .mk param body => .mk (param.map f) (Statement.mapList body)

def SwitchCase.map : SwitchCase ν → SwitchCase μ
  | .mk none consequent => .mk none (Statement.mapList consequent)
  | .mk (some test) consequent => .mk (some test.map) (Statement.mapList consequent)

def SwitchCase.mapList : List (SwitchCase ν) → List (SwitchCase μ)
  | [] => []
  | c :: cs => c.map :: SwitchCase.mapList cs

def Expression.mapOption : Option (Expression ν) → Option (Expression μ)
  | none => none
  | some e => some e.map

def Statement.map : Statement ν → Statement μ
  | .declaration value => .declaration value.map
  | .exportDeclaration value => .exportDeclaration value.map
  | .exportList specifiers source =>
    .exportList (specifiers.map fun s => ⟨f s.bound, f s.exported⟩) source
  | .importList specifiers source =>
    .importList (specifiers.map fun s => ⟨f s.imported, f s.bound⟩) source
  | .expression value => .expression value.map
  | .block body => .block (Statement.mapList body)
  | .return argument => .return (Expression.mapOption argument)
  | .if test consequent none => .if test.map consequent.map none
  | .if test consequent (some alternate) => .if test.map consequent.map (some alternate.map)
  | .for none test update body =>
    .for none (Expression.mapOption test) (Expression.mapOption update) body.map
  | .for (some init) test update body =>
    .for (some init.map) (Expression.mapOption test) (Expression.mapOption update) body.map
  | .forIn left right body => .forIn left.map right.map body.map
  | .forOf left right body => .forOf left.map right.map body.map
  | .while test body => .while test.map body.map
  | .doWhile body test => .doWhile body.map test.map
  | .break => .break
  | .continue => .continue
  | .throw argument => .throw argument.map
  | .try block handler finalizer =>
    .try (Statement.mapList block) (CatchClause.mapOption handler)
      (Statement.mapOptionList finalizer)
  | .switch discriminant cases => .switch discriminant.map (SwitchCase.mapList cases)
  | .empty => .empty

def Statement.mapList : List (Statement ν) → List (Statement μ)
  | [] => []
  | s :: ss => s.map :: Statement.mapList ss

def Statement.mapOptionList : Option (List (Statement ν)) → Option (List (Statement μ))
  | none => none
  | some body => some (Statement.mapList body)

def CatchClause.mapOption : Option (CatchClause ν) → Option (CatchClause μ)
  | none => none
  | some handler => some handler.map

end

/-- A function applied to every name of a module. -/
def Program.map (program : Program ν) : Program μ := ⟨Statement.mapList f program.body⟩

end Map

end LibraryDescriptor
