import LibraryDescriptor.Printer.Layout

/-!
# Printing

The printer lays a tree out with one statement on a line and four spaces for each level of nesting.
Parentheses are not part of a tree: each expression has a binding level, and it gets parentheses
where a tighter level is required.

While the first clause of a `for` head is laid out, `in` gets parentheses of its own, since a bare
one would be read as the `in` of a loop over keys. Whether this is so is the state of the printer;
the end of a first clause turns it off.

* `Level` — the binding levels.
* `Statement.layout`, `Expression.layout` and the other layouts.
* `Program.print`, `Statement.print`, `Declarator.print`, … — the text of a tree.
-/

namespace LibraryDescriptor

/-- Why a tree cannot be written. A tree that was read from text always can. -/
inductive PrintError where
  /-- A binary operator that the language does not have. -/
  | unknownOperator (spelling : Text)
  /-- A property that is neither computed nor a name. -/
  | propertyNotName
  /-- A statement that is a sequence of no expressions. -/
  | emptySequence
  /-- An integer with too many digits. -/
  | numberTooLong
  deriving DecidableEq

/-! ## Binding levels -/

namespace Level

def sequence : Nat := 0
def assignment : Nat := 1
def conditional : Nat := 2
def nullish : Nat := 3
def unary : Nat := 14
def postfixed : Nat := 15
def call : Nat := 16
def member : Nat := 17
def primary : Nat := 18

/-- Tighter than every expression, so that it requires parentheses. -/
def always : Nat := 19

end Level

/-- The binding level of an operator; `??` and `||` share one, and the levels below it belong to
assignments and conditional expressions. -/
def BinaryOperator.level? (op : BinaryOperator) : Option Nat :=
  op.precedence?.map fun precedence => max Level.nullish (precedence + 1)

/-- Whether `child` is a logical expression that cannot stand in a logical expression with the
operator `op` without parentheses. -/
def mixesNullish {ν : Type} (op : BinaryOperator) (child : Expression ν) : Bool :=
  match child with
  | .logical inner _ _ => if op = .nullish then inner = .or || inner = .and else inner = .nullish
  | _ => false

/-- The levels that the operands of an operator of level `level` require. A power groups to the
right and does not take a bare unary operand on its left. -/
def operandLevels (op : BinaryOperator) (level : Nat) : Nat × Nat :=
  if op = .power then (Level.postfixed, level) else (level, level + 1)

/-- Whether a `new` expression with this callee would take the arguments of a call in it. -/
def containsCall {ν : Type} : Expression ν → Bool
  | .member object _ _ => containsCall object
  | .call _ _ => true
  | _ => false

/-- Whether a point behind an expression would be read as part of a number. Truth values, which are
numbers too, get the same treatment. -/
def absorbsPoint {ν : Type} : Expression ν → Bool
  | .literal (.number _) _ | .literal (.boolean _) _ => true
  | _ => false

/-- Whether a statement that is this expression would start like a declaration or a block. -/
def startsAmbiguously {ν : Type} : Expression ν → Except PrintError Bool
  | .function _ _ _ | .object _ => .ok true
  | .call callee _ => startsAmbiguously callee
  | .member object _ _ => startsAmbiguously object
  | .binary _ left _ | .logical _ left _ | .assignment _ left _ => startsAmbiguously left
  | .conditional test _ _ => startsAmbiguously test
  | .sequence (first :: _) => startsAmbiguously first
  | .sequence [] => .error .emptySequence
  | .update _ false argument => startsAmbiguously argument
  | _ => .ok false

def UnaryOperator.isWord : UnaryOperator → Bool
  | .typeOf | .void | .delete => true
  | .other spelling => !spelling.isEmpty && spelling.all (·.has isLetter)
  | _ => false

/-! ## Layouts of names and literals -/

/-- A part of the printer, with its state: whether `in` needs parentheses. -/
abbrev Printer (α : Type) := StateT Bool (Except PrintError) α

def wrap (required : Nat) (printed : Layout × Nat) : Layout :=
  if printed.2 < required then Layout.parens printed.1 else printed.1

def layoutParams (params : List Text) : Layout :=
  Layout.parens (Layout.commas (params.map Layout.name))

def layoutLiteral (value : Literal) (raw : Option Text) : Except PrintError Lexeme :=
  match value with
  | .null => .ok (.keyword .null)
  | .boolean true => .ok (.keyword .true)
  | .boolean false => .ok (.keyword .false)
  | .string value => .ok (.string value)
  | .number value =>
    match raw.or value.spelling? with
    | some spelling => .ok (.number spelling)
    | none => .error .numberTooLong

def ImportSpecifier.layout (s : ImportSpecifier Text) : Layout :=
  if s.imported = s.bound then Layout.name s.bound
  else Layout.name s.imported ++ Layout.space ++ Layout.name "as" ++ Layout.space ++
    Layout.name s.bound

def ExportSpecifier.layout (s : ExportSpecifier Text) : Layout :=
  if s.bound = s.exported then Layout.name s.bound
  else Layout.name s.bound ++ Layout.space ++ Layout.name "as" ++ Layout.space ++
    Layout.name s.exported

def layoutNames (names : Layout) : Layout :=
  Layout.mark .braceOpen ++ Layout.space ++ names ++ Layout.space ++ Layout.mark .braceClose

/-- The literal that names a module, always as a string. -/
def layoutModuleName (source : Literal) : Except PrintError Layout :=
  match source.moduleName? with
  | some name => .ok (Layout.string name)
  | none => .error .numberTooLong

def layoutSource (source : Literal) : Except PrintError Layout := do
  let name ← layoutModuleName source
  return Layout.space ++ Layout.name "from" ++ Layout.space ++ name

def layoutExports (specifiers : List (ExportSpecifier Text)) (source : Option Literal) :
    Except PrintError Layout := do
  let names := Layout.commas (specifiers.map ExportSpecifier.layout)
  let clause ← source.elim (.ok []) layoutSource
  return Layout.word .export ++ Layout.space ++
    (if names.text.isEmpty then Layout.mark .braceOpen ++ Layout.mark .braceClose
     else layoutNames names) ++
    clause ++ Layout.mark .semicolon

def layoutImports (specifiers : List (ImportSpecifier Text)) (source : Literal) :
    Except PrintError Layout := do
  let name ← layoutModuleName source
  let clause ← layoutSource source
  return Layout.word .import ++ Layout.space ++
    (if specifiers.isEmpty then name
     else layoutNames (Layout.commas (specifiers.map ImportSpecifier.layout)) ++ clause) ++
    Layout.mark .semicolon

/-- A unary expression. An operator that is a word, and a sign in front of a sign, stand apart from
the operand. -/
def layoutUnary (op : UnaryOperator) (argument : Layout) : Layout :=
  let text := argument.text
  let apart := op.isWord ||
    ((op = .plus || op = .minus) && (text.headIs '+' || text.headIs '-'))
  .lexeme op.lexeme :: (if apart then Layout.space else []) ++ argument

/-- An array. A hole at the end needs a comma of its own. -/
def layoutArray (elements : List Layout) (holeAtEnd : Bool) : Layout :=
  Layout.brackets (Layout.commas elements ++ if holeAtEnd then Layout.mark .comma else [])

def endsWithHole {α : Type} (elements : List (Option α)) : Bool :=
  match elements.getLast? with
  | some none => true
  | _ => false

def layoutBinary (op : BinaryOperator) (level : Nat) (left right : Layout) (noIn : Bool) :
    Layout × Nat :=
  let whole := left ++ Layout.space ++ (.lexeme op.lexeme :: Layout.space) ++ right
  if op = .isIn && noIn then (Layout.parens whole, Level.primary) else (whole, level)

/-- What separates the body of a compound statement from its head: a space in front of a block,
nothing in front of a semicolon, else a line break. -/
def bodyLead {ν : Type} (body : Statement ν) (level : Nat) : Layout :=
  match body with
  | .block _ => Layout.space
  | .empty => []
  | _ => [.newline (level + 1)]

def bodyLevel {ν : Type} (body : Statement ν) (level : Nat) : Nat :=
  match body with
  | .block _ | .empty => level
  | _ => level + 1

def isIf {ν : Type} : Statement ν → Bool
  | .if _ _ _ => true
  | _ => false

def isBlock {ν : Type} : Statement ν → Bool
  | .block _ => true
  | _ => false

/-- Whether the `else` of an `if` statement with this consequent would belong to an inner one. -/
def takesElse {ν : Type} (consequent : Statement ν) : Bool :=
  match consequent with
  | .if _ _ none => true
  | _ => false

/-!
## Layouts of trees

An expression comes with its binding level, from which what stands around it can tell whether it
needs parentheses (`wrap`).
-/

mutual

/-- An expression with its binding level; `level` is that of the line it stands on. -/
def Expression.layout : Expression Text → Nat → Printer (Layout × Nat)
  | .identifier name, _ => return (Layout.name name, Level.primary)
  | .literal value raw, _ => do
    let lexeme ← layoutLiteral value raw
    return ([.lexeme lexeme],
      if lexeme.source.headIs '-' then Level.unary else Level.primary)
  | .this, _ => return (Layout.word .this, Level.primary)
  | .array elements, level => do
    let items ← Expression.layoutElements elements level
    return (layoutArray items (endsWithHole elements), Level.primary)
  | .object properties, level => do
    let items ← Property.layoutList properties (level + 1)
    return (Layout.entries level items, Level.primary)
  | .function name params body, level => do
    let lines ← Statement.layoutList body (level + 1)
    return (Layout.word .function ++ Layout.space ++ name.elim [] Layout.name ++
      layoutParams params ++ Layout.space ++ Layout.braces level lines, Level.primary)
  | .arrow params body, level => do
    let printed ← body.layout level
    let result := wrap Level.assignment printed
    let result :=
      match body with
      | .object _ => Layout.parens result
      | _ => result
    return (layoutParams params ++ Layout.space ++ Layout.mark .arrow ++ Layout.space ++ result,
      Level.assignment)
  | .arrowBlock params body, level => do
    let lines ← Statement.layoutList body (level + 1)
    return (layoutParams params ++ Layout.space ++ Layout.mark .arrow ++ Layout.space ++
      Layout.braces level lines, Level.assignment)
  | .unary op argument, level => do
    let printed ← argument.layout level
    return (layoutUnary op (wrap Level.unary printed), Level.unary)
  | .update op true argument, level => do
    let printed ← argument.layout level
    return (.lexeme op.lexeme :: wrap Level.unary printed, Level.unary)
  | .update op false argument, level => do
    let printed ← argument.layout level
    return (wrap Level.call printed ++ [.lexeme op.lexeme], Level.postfixed)
  | .binary op left right, level => do
    match op.level? with
    | none => throw (.unknownOperator op.spelling)
    | some own => do
      let (leftLevel, rightLevel) := operandLevels op own
      let leftPrinted ← left.layout level
      let rightPrinted ← right.layout level
      return layoutBinary op own (wrap leftLevel leftPrinted) (wrap rightLevel rightPrinted) (← get)
  | .logical op left right, level => do
    match op.level? with
    | none => throw (.unknownOperator op.spelling)
    | some own => do
      let (leftLevel, rightLevel) := operandLevels op own
      let leftPrinted ← left.layout level
      let rightPrinted ← right.layout level
      let leftLevel := if mixesNullish op left then Level.always else leftLevel
      let rightLevel := if mixesNullish op right then Level.always else rightLevel
      return layoutBinary op own (wrap leftLevel leftPrinted) (wrap rightLevel rightPrinted) (← get)
  | .assignment op left right, level => do
    let leftPrinted ← left.layout level
    let rightPrinted ← right.layout level
    return (wrap Level.call leftPrinted ++ Layout.space ++ (.lexeme op.lexeme :: Layout.space) ++
      wrap Level.assignment rightPrinted, Level.assignment)
  | .conditional test consequent alternate, level => do
    let testPrinted ← test.layout level
    let consequentPrinted ← consequent.layout level
    let alternatePrinted ← alternate.layout level
    return (wrap Level.nullish testPrinted ++ Layout.space ++ Layout.mark .question ++
      Layout.space ++ wrap Level.assignment consequentPrinted ++ Layout.space ++
      Layout.mark .colon ++ Layout.space ++ wrap Level.assignment alternatePrinted,
      Level.conditional)
  | .call callee arguments, level => do
    let printed ← callee.layout level
    let items ← Expression.layoutList arguments level
    return (wrap Level.call printed ++ Layout.parens (Layout.commas items), Level.call)
  | .new callee arguments, level => do
    let printed ← callee.layout level
    let items ← Expression.layoutList arguments level
    let required := if containsCall callee then Level.always else Level.member
    return (Layout.word .new ++ Layout.space ++ wrap required printed ++
      Layout.parens (Layout.commas items), Level.member)
  | .member object property computed, level => do
    let printed ← object.layout level
    let object := wrap (if absorbsPoint object then Level.always else Level.call) printed
    if computed then
      let inner ← property.layout level
      return (object ++ Layout.brackets inner.1, Level.member)
    else
      match property with
      | .identifier name => return (object ++ Layout.mark .dot ++ Layout.name name, Level.member)
      | _ => throw .propertyNotName
  | .sequence expressions, level => do
    let items ← Expression.layoutList expressions level
    return (Layout.commas items, Level.sequence)

def Expression.layoutList : List (Expression Text) → Nat → Printer (List Layout)
  | [], _ => return []
  | e :: es, level => do
    let printed ← e.layout level
    let items ← Expression.layoutList es level
    return wrap Level.assignment printed :: items

def Expression.layoutElements : List (Option (Expression Text)) → Nat → Printer (List Layout)
  | [], _ => return []
  | none :: es, level => do
    let items ← Expression.layoutElements es level
    return [] :: items
  | some e :: es, level => do
    let printed ← e.layout level
    let items ← Expression.layoutElements es level
    return wrap Level.assignment printed :: items

/-- An entry of an object. A key that is neither a name nor a literal is written as computed. -/
def Property.layout : Property Text → Nat → Printer Layout
  | .mk key value computed shorthand method, level => do
    let keyLayout ←
      match computed, key with
      | false, .identifier name => pure (Layout.name name)
      | false, .literal value raw => do
        let lexeme ← layoutLiteral value raw
        pure [.lexeme lexeme]
      | _, key => do
        let printed ← key.layout level
        pure (Layout.brackets (wrap Level.assignment printed))
    match shorthand, method, value with
    | true, _, .identifier name =>
      if name = keyLayout.text then return keyLayout
      else return keyLayout ++ Layout.mark .colon ++ Layout.space ++ Layout.name name
    | _, true, .function _ params body => do
      let lines ← Statement.layoutList body (level + 1)
      return keyLayout ++ layoutParams params ++ Layout.space ++ Layout.braces level lines
    | _, _, value => do
      let printed ← value.layout level
      return keyLayout ++ Layout.mark .colon ++ Layout.space ++ wrap Level.assignment printed

def Property.layoutList : List (Property Text) → Nat → Printer (List Layout)
  | [], _ => return []
  | p :: ps, level => do
    let item ← p.layout level
    let items ← Property.layoutList ps level
    return item :: items

def Declarator.layout : Declarator Text → Nat → Printer Layout
  | .mk name none, _ => return Layout.name name
  | .mk name (some init), level => do
    let printed ← init.layout level
    return Layout.name name ++ Layout.space ++ Layout.mark .assign ++ Layout.space ++
      wrap Level.assignment printed

def Declarator.layoutList : List (Declarator Text) → Nat → Printer (List Layout)
  | [], _ => return []
  | d :: ds, level => do
    let item ← d.layout level
    let items ← Declarator.layoutList ds level
    return item :: items

def Declaration.layout : Declaration Text → Nat → Printer Layout
  | .function name params body, level => do
    let lines ← Statement.layoutList body (level + 1)
    return Layout.word .function ++ Layout.space ++ Layout.name name ++ layoutParams params ++
      Layout.space ++ Layout.braces level lines
  | .variables kind declarators, level => do
    let items ← Declarator.layoutList declarators level
    return Layout.word kind.keyword ++ Layout.space ++ Layout.commas items ++
      Layout.mark .semicolon

def LoopHead.layout : LoopHead Text → Nat → Nat → Printer Layout
  | .variables kind declarators, _, level => do
    let items ← Declarator.layoutList declarators level
    return Layout.word kind.keyword ++ Layout.space ++ Layout.commas items
  | .expression value, required, level => do
    let printed ← value.layout level
    return wrap required printed

def Expression.layoutOption : Option (Expression Text) → Nat → Printer Layout
  | none, _ => return []
  | some e, level => do
    let printed ← e.layout level
    return Layout.space ++ printed.1

/-- A statement on a line of the given level; the indentation of its first line is left to the
caller. -/
def Statement.layout : Statement Text → Nat → Printer Layout
  | .declaration value, level => value.layout level
  | .exportDeclaration value, level => do
    let item ← value.layout level
    return Layout.word .export ++ Layout.space ++ item
  | .exportList specifiers source, _ => layoutExports specifiers source
  | .importList specifiers source, _ => layoutImports specifiers source
  | .expression value, level => do
    let printed ← value.layout level
    let ambiguous ← startsAmbiguously value
    return (if ambiguous then Layout.parens printed.1 else printed.1) ++ Layout.mark .semicolon
  | .block body, level => do
    let lines ← Statement.layoutList body (level + 1)
    return Layout.braces level lines
  | .return argument, level => do
    let item ← Expression.layoutOption argument level
    return Layout.word .return ++ item ++ Layout.mark .semicolon
  | .if test consequent alternate, level => do
    let printed ← test.layout level
    let head := Layout.word .if ++ Layout.space ++ Layout.parens printed.1
    match alternate with
    | none => do
      let inner ← consequent.layout (bodyLevel consequent level)
      return head ++ bodyLead consequent level ++ inner
    | some other => do
      -- Braces keep the `else` from an inner statement.
      let guarded := takesElse consequent
      let inner ←
        consequent.layout (if guarded then level + 1 else bodyLevel consequent level)
      let first :=
        head ++ if guarded then Layout.space ++ Layout.braces level [inner]
          else bodyLead consequent level ++ inner
      let separator :=
        if isBlock consequent || first.text.lastIs '}' then Layout.space else [.newline level]
      let rest ← other.layout (if isIf other then level else bodyLevel other level)
      return first ++ separator ++ Layout.word .else ++
        (if isIf other then Layout.space else bodyLead other level) ++ rest
  | .for init test update body, level => do
    let first ←
      match init with
      | none => pure []
      | some head => do
        set true
        let inner ← head.layout Level.sequence level
        set false
        pure inner
    let testLayout ← Expression.layoutOption test level
    let updateLayout ← Expression.layoutOption update level
    let rest ← body.layout (bodyLevel body level)
    return Layout.word .for ++ Layout.space ++
      Layout.parens (first ++ Layout.mark .semicolon ++ testLayout ++ Layout.mark .semicolon ++
        updateLayout) ++ bodyLead body level ++ rest
  | .forIn left right body, level => do
    let first ← left.layout Level.postfixed level
    let printed ← right.layout level
    let rest ← body.layout (bodyLevel body level)
    return Layout.word .for ++ Layout.space ++
      Layout.parens (first ++ Layout.space ++ Layout.word .in ++ Layout.space ++ printed.1) ++
      bodyLead body level ++ rest
  | .forOf left right body, level => do
    let first ← left.layout Level.postfixed level
    let printed ← right.layout level
    let rest ← body.layout (bodyLevel body level)
    return Layout.word .for ++ Layout.space ++
      Layout.parens (first ++ Layout.space ++ Layout.name "of" ++ Layout.space ++
        wrap Level.assignment printed) ++ bodyLead body level ++ rest
  | .while test body, level => do
    let printed ← test.layout level
    let rest ← body.layout (bodyLevel body level)
    return Layout.word .while ++ Layout.space ++ Layout.parens printed.1 ++
      bodyLead body level ++ rest
  | .doWhile body test, level => do
    let inner ← body.layout (bodyLevel body level)
    let printed ← test.layout level
    let separator := if isBlock body then Layout.space else [.newline level]
    return Layout.word .do ++ bodyLead body level ++ inner ++ separator ++
      Layout.word .while ++ Layout.space ++ Layout.parens printed.1 ++ Layout.mark .semicolon
  | .break, _ => return Layout.word .break ++ Layout.mark .semicolon
  | .continue, _ => return Layout.word .continue ++ Layout.mark .semicolon
  | .throw argument, level => do
    let printed ← argument.layout level
    return Layout.word .throw ++ Layout.space ++ printed.1 ++ Layout.mark .semicolon
  | .try block handler finalizer, level => do
    let lines ← Statement.layoutList block (level + 1)
    let handlerLayout ← CatchClause.layoutOption handler level
    let finalizerLayout ← Statement.layoutFinalizer finalizer level
    return Layout.word .try ++ Layout.space ++ Layout.braces level lines ++ handlerLayout ++
      finalizerLayout
  | .switch discriminant cases, level => do
    let printed ← discriminant.layout level
    let lines ← SwitchCase.layoutList cases level
    return Layout.word .switch ++ Layout.space ++ Layout.parens printed.1 ++ Layout.space ++
      (if cases.isEmpty then Layout.mark .braceOpen ++ Layout.mark .braceClose
       else Layout.mark .braceOpen ++ lines ++ (.newline level :: Layout.mark .braceClose))
  | .empty, _ => return Layout.mark .semicolon

def Statement.layoutList : List (Statement Text) → Nat → Printer (List Layout)
  | [], _ => return []
  | s :: ss, level => do
    let line ← s.layout level
    let lines ← Statement.layoutList ss level
    return line :: lines

def CatchClause.layoutOption : Option (CatchClause Text) → Nat → Printer Layout
  | none, _ => return []
  | some (.mk param body), level => do
    let lines ← Statement.layoutList body (level + 1)
    return Layout.space ++ Layout.word .catch ++ Layout.space ++
      param.elim [] (fun name => Layout.parens (Layout.name name) ++ Layout.space) ++
      Layout.braces level lines

def Statement.layoutFinalizer : Option (List (Statement Text)) → Nat → Printer Layout
  | none, _ => return []
  | some body, level => do
    let lines ← Statement.layoutList body (level + 1)
    return Layout.space ++ Layout.word .finally ++ Layout.space ++ Layout.braces level lines

def SwitchCase.layoutList : List (SwitchCase Text) → Nat → Printer Layout
  | [], _ => return []
  | .mk test consequent :: cases, level => do
    let label ←
      match test with
      | none => pure (Layout.word .default)
      | some e => do
        let printed ← e.layout (level + 1)
        pure (Layout.word .case ++ Layout.space ++ printed.1)
    let lines ← Statement.layoutList consequent (level + 2)
    let rest ← SwitchCase.layoutList cases level
    return .newline (level + 1) :: label ++ Layout.mark .colon ++
      lines.flatMap (.newline (level + 2) :: ·) ++ rest

end

/-! ## Texts of trees -/

/-- The text that a part of the printer makes, starting outside every `for` head. -/
def Printer.text (printer : Printer Layout) : Except PrintError Text := do
  let (layout, _) ← printer.run false
  return layout.text

def Expression.print (e : Expression Text) : Except PrintError Text :=
  Printer.text do return (← e.layout 0).1

def Property.print (p : Property Text) : Except PrintError Text := Printer.text (p.layout 0)

def Declarator.print (d : Declarator Text) : Except PrintError Text := Printer.text (d.layout 0)

def Statement.print (s : Statement Text) : Except PrintError Text := Printer.text (s.layout 0)

/-- The text of a module: its statements, each with a line break behind it. -/
def Program.print (program : Program Text) : Except PrintError Text := do
  let (lines, _) ← (Statement.layoutList program.body 0).run false
  return lines.flatMap fun line => line.text ++ [.scalar '\n']

end LibraryDescriptor
