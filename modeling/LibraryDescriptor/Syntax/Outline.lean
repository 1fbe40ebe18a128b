import LibraryDescriptor.Syntax.Tree

/-!
# Outlines

An outline is a tree as plain data: each node has a kind and named fields, in a fixed order.

* `Outline` and `Program.outline`, `Statement.outline`, `Expression.outline`, ….
-/

namespace LibraryDescriptor

/-- A tree as plain data. -/
inductive Outline where
  | null
  | flag (value : Bool)
  | text (value : Text)
  | literal (value : Literal)
  | list (items : List Outline)
  | node (kind : String) (fields : List (String × Outline))

/-!
## Outlines of trees

Every field of a node is there, also one that is empty: a part that is missing is `null`.
-/

namespace Outline

def ofName (name : Text) : Outline := .node "identifier" [("name", .text name)]

def ofName? : Option Text → Outline
  | none => .null
  | some name => ofName name

def ofNames (names : List Text) : Outline := .list (names.map ofName)

def ofLiteral (value : Literal) (raw : Option Text) : Outline :=
  .node "literal" [("value", .literal value), ("raw", raw.elim .null .text)]

def ofSource? : Option Literal → Outline
  | none => .null
  | some source => ofLiteral source none

def ofOperands (kind : String) (op : Text) (left right : Outline) : Outline :=
  .node kind [("operator", .text op), ("left", left), ("right", right)]

def ofBlock (body : List Outline) : Outline := .node "block" [("body", .list body)]

def ofVariables (kind : VariableKind) (declarators : List Outline) : Outline :=
  .node "variable_declaration"
    [("declaration_kind", .text kind.spelling), ("declarations", .list declarators)]

def ofExport (declaration : Outline) (specifiers : List Outline) (source : Option Literal) :
    Outline :=
  .node "export_named"
    [("declaration", declaration), ("specifiers", .list specifiers), ("source", ofSource? source)]

end Outline

def ExportSpecifier.outline (s : ExportSpecifier Text) : Outline :=
  .node "export_specifier" [("local", .ofName s.bound), ("exported", .ofName s.exported)]

def ImportSpecifier.outline (s : ImportSpecifier Text) : Outline :=
  .node "import_specifier" [("imported", .ofName s.imported), ("local", .ofName s.bound)]

mutual

def Expression.outline : Expression Text → Outline
  | .identifier name => .ofName name
  | .literal value raw => .ofLiteral value raw
  | .this => .node "this" []
  | .array elements => .node "array" [("elements", .list (Expression.outlineElements elements))]
  | .object properties => .node "object" [("properties", .list (Property.outlineList properties))]
  | .function name params body =>
    .node "function_expression"
      [("id", .ofName? name), ("params", .ofNames params),
       ("body", .ofBlock (Statement.outlineList body))]
  | .arrow params body =>
    .node "arrow_function" [("params", .ofNames params), ("body", body.outline)]
  | .arrowBlock params body =>
    .node "arrow_function"
      [("params", .ofNames params), ("body", .ofBlock (Statement.outlineList body))]
  | .unary op argument =>
    .node "unary" [("operator", .text op.spelling), ("argument", argument.outline)]
  | .update op inFront argument =>
    .node "update"
      [("operator", .text op.spelling), ("prefix", .flag inFront), ("argument", argument.outline)]
  | .binary op left right => .ofOperands "binary" op.spelling left.outline right.outline
  | .logical op left right => .ofOperands "logical" op.spelling left.outline right.outline
  | .assignment op left right => .ofOperands "assignment" op.spelling left.outline right.outline
  | .conditional test consequent alternate =>
    .node "conditional"
      [("test", test.outline), ("consequent", consequent.outline),
       ("alternate", alternate.outline)]
  | .call callee arguments =>
    .node "call"
      [("callee", callee.outline), ("arguments", .list (Expression.outlineList arguments))]
  | .new callee arguments =>
    .node "new"
      [("callee", callee.outline), ("arguments", .list (Expression.outlineList arguments))]
  | .member object property computed =>
    .node "member"
      [("object", object.outline), ("property", property.outline), ("computed", .flag computed)]
  | .sequence expressions =>
    .node "sequence" [("expressions", .list (Expression.outlineList expressions))]

def Expression.outlineList : List (Expression Text) → List Outline
  | [] => []
  | e :: es => e.outline :: Expression.outlineList es

def Expression.outlineElements : List (Option (Expression Text)) → List Outline
  | [] => []
  | none :: es => .null :: Expression.outlineElements es
  | some e :: es => e.outline :: Expression.outlineElements es

def Expression.outlineOption : Option (Expression Text) → Outline
  | none => .null
  | some e => e.outline

def Property.outline : Property Text → Outline
  | .mk key value computed shorthand method =>
    .node "property"
      [("key", key.outline), ("value", value.outline), ("computed", .flag computed),
       ("shorthand", .flag shorthand), ("method", .flag method)]

def Property.outlineList : List (Property Text) → List Outline
  | [] => []
  | p :: ps => p.outline :: Property.outlineList ps

def Declarator.outline : Declarator Text → Outline
  | .mk name init =>
    .node "variable_declarator"
      [("id", .ofName name), ("init", Expression.outlineOption init)]

def Declarator.outlineList : List (Declarator Text) → List Outline
  | [] => []
  | d :: ds => d.outline :: Declarator.outlineList ds

def Declaration.outline : Declaration Text → Outline
  | .function name params body =>
    .node "function_declaration"
      [("id", .ofName name), ("params", .ofNames params),
       ("body", .ofBlock (Statement.outlineList body))]
  | .variables kind declarators => .ofVariables kind (Declarator.outlineList declarators)

def LoopHead.outline : LoopHead Text → Outline
  | .variables kind declarators => .ofVariables kind (Declarator.outlineList declarators)
  | .expression value => value.outline

def CatchClause.outline : CatchClause Text → Outline
  | .mk param body =>
    .node "catch_clause"
      [("param", .ofName? param), ("body", .ofBlock (Statement.outlineList body))]

def SwitchCase.outlineList : List (SwitchCase Text) → List Outline
  | [] => []
  | .mk test consequent :: cases =>
    .node "switch_case"
      [("test", Expression.outlineOption test),
       ("consequent", .list (Statement.outlineList consequent))] ::
      SwitchCase.outlineList cases

def Statement.outline : Statement Text → Outline
  | .declaration value => value.outline
  | .exportDeclaration value => .ofExport value.outline [] none
  | .exportList specifiers source =>
    .ofExport .null (specifiers.map ExportSpecifier.outline) source
  | .importList specifiers source =>
    .node "import"
      [("specifiers", .list (specifiers.map ImportSpecifier.outline)),
       ("source", .ofLiteral source none)]
  | .expression value => .node "expression_statement" [("expression", value.outline)]
  | .block body => .ofBlock (Statement.outlineList body)
  | .return argument => .node "return" [("argument", Expression.outlineOption argument)]
  | .if test consequent alternate =>
    .node "if"
      [("test", test.outline), ("consequent", consequent.outline),
       ("alternate", Statement.outlineOption alternate)]
  | .for init test update body =>
    .node "for"
      [("init", LoopHead.outlineOption init), ("test", Expression.outlineOption test),
       ("update", Expression.outlineOption update), ("body", body.outline)]
  | .forIn left right body =>
    .node "for_in" [("left", left.outline), ("right", right.outline), ("body", body.outline)]
  | .forOf left right body =>
    .node "for_of" [("left", left.outline), ("right", right.outline), ("body", body.outline)]
  | .while test body => .node "while" [("test", test.outline), ("body", body.outline)]
  | .doWhile body test => .node "do_while" [("body", body.outline), ("test", test.outline)]
  | .break => .node "break" []
  | .continue => .node "continue" []
  | .throw argument => .node "throw" [("argument", argument.outline)]
  | .try block handler finalizer =>
    .node "try"
      [("block", .ofBlock (Statement.outlineList block)),
       ("handler", CatchClause.outlineOption handler),
       ("finalizer", Statement.outlineFinalizer finalizer)]
  | .switch discriminant cases =>
    .node "switch"
      [("discriminant", discriminant.outline), ("cases", .list (SwitchCase.outlineList cases))]
  | .empty => .node "empty" []

def Statement.outlineList : List (Statement Text) → List Outline
  | [] => []
  | s :: ss => s.outline :: Statement.outlineList ss

def Statement.outlineOption : Option (Statement Text) → Outline
  | none => .null
  | some s => s.outline

def Statement.outlineFinalizer : Option (List (Statement Text)) → Outline
  | none => .null
  | some body => .ofBlock (Statement.outlineList body)

def CatchClause.outlineOption : Option (CatchClause Text) → Outline
  | none => .null
  | some handler => handler.outline

def LoopHead.outlineOption : Option (LoopHead Text) → Outline
  | none => .null
  | some head => head.outline

end

def Program.outline (program : Program Text) : Outline :=
  .node "program" [("body", .list (Statement.outlineList program.body))]

def Statement.kind (s : Statement Text) : String :=
  match s.outline with
  | .node kind _ => kind
  | _ => ""

end LibraryDescriptor
