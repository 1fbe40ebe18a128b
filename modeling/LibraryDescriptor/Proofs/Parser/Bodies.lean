import LibraryDescriptor.Proofs.Parser.Evaluation

/-!
# The calls of the grammar

The functions of the grammar are given a bound on the depth of their calls. Here they are written
without it: the body of a function says which tokens it looks at or takes and which functions it
calls, and a run puts bodies together as far as the calls go.

* `Grammar.Rule` — the functions of the grammar, with their bodies `Rule.body`.
* `Grammar.Rule.parser_succ` — a function does what its body says.
* `Grammar.Body.Runs` — the runs of a body, with all calls that they make.
* `Grammar.Body.Runs.run_eq` — a function gives what its run gives, if its bound is not below the
  number of calls.
-/

namespace LibraryDescriptor

namespace Grammar

open LibraryDescriptor.Parser

inductive Rule where
  | params | jump | expression | moreExpressions | assignment | arrow | conditional | binary | climb
  | unary | leftHandSide | new | tail | arguments | primary | parenthesized | functionExpression
  | elements | properties | property | propertyValue | block | blockItems | statement
  | expressionStatement | functionDeclaration | variableStatement | variableDeclaration
  | declarators | ifStatement | forStatement | forEach | forRest | optionalBefore | doStatement
  | returnStatement | throwStatement | tryStatement | catchClause | switchStatement | switchCases
  | caseItems | importItems | importDeclaration | exportItems | exportDeclaration | moduleItem
  | moduleItems
  deriving DecidableEq

namespace Rule

/-- What a function is given besides the tokens. -/
@[reducible]
def Args : Rule → Type
  | jump => Statement Text
  | expression | moreExpressions | assignment | arrow | conditional | declarators => Bool
  | binary => Nat × Bool
  | climb => Nat × Bool × Bool × Expression Text × Logicals
  | tail => Bool × Expression Text
  | propertyValue => Expression Text × Bool × Option Text
  | variableStatement | variableDeclaration => VariableKind
  | forEach => LoopHead Text
  | forRest => Option (LoopHead Text)
  | optionalBefore => Punctuator
  | _ => Unit

@[reducible]
def Result : Rule → Type
  | params => List Text
  | binary | climb => Expression Text × Logicals
  | expression | assignment | arrow | conditional | unary | leftHandSide | new | tail | primary
  | parenthesized | functionExpression => Expression Text
  | moreExpressions | arguments => List (Expression Text)
  | elements => List (Option (Expression Text))
  | properties => List (Property Text)
  | property | propertyValue => Property Text
  | block | blockItems | caseItems | moduleItems => List (Statement Text)
  | functionDeclaration | variableDeclaration => Declaration Text
  | declarators => List (Declarator Text)
  | optionalBefore => Option (Expression Text)
  | catchClause => Option (CatchClause Text)
  | switchCases => List (SwitchCase Text)
  | importItems => List (ImportSpecifier Text)
  | exportItems => List (ExportSpecifier Text)
  | _ => Statement Text

/-- A function, given a bound on the depth of its calls. -/
@[simp]
def parser (depth : Nat) : (rule : Rule) → rule.Args → Parser rule.Result
  | params, _ => Grammar.params depth
  | jump, result => Grammar.jump result
  | expression, allowIn => Grammar.expression depth allowIn
  | moreExpressions, allowIn => Grammar.moreExpressions depth allowIn
  | assignment, allowIn => Grammar.assignment depth allowIn
  | arrow, allowIn => Grammar.arrow depth allowIn
  | conditional, allowIn => Grammar.conditional depth allowIn
  | binary, (least, allowIn) => Grammar.binary depth least allowIn
  | climb, (least, allowIn, isUnary, left, logicals) =>
    Grammar.climb depth least allowIn isUnary left logicals
  | unary, _ => Grammar.unary depth
  | leftHandSide, _ => Grammar.leftHandSide depth
  | new, _ => Grammar.new depth
  | tail, (allowCall, head) => Grammar.tail depth allowCall head
  | arguments, _ => Grammar.arguments depth
  | primary, _ => Grammar.primary depth
  | parenthesized, _ => Grammar.parenthesized depth
  | functionExpression, _ => Grammar.functionExpression depth
  | elements, _ => Grammar.elements depth
  | properties, _ => Grammar.properties depth
  | property, _ => Grammar.property depth
  | propertyValue, (key, computed, shorthand) => Grammar.propertyValue depth key computed shorthand
  | block, _ => Grammar.block depth
  | blockItems, _ => Grammar.blockItems depth
  | statement, _ => Grammar.statement depth
  | expressionStatement, _ => Grammar.expressionStatement depth
  | functionDeclaration, _ => Grammar.functionDeclaration depth
  | variableStatement, kind => Grammar.variableStatement depth kind
  | variableDeclaration, kind => Grammar.variableDeclaration depth kind
  | declarators, allowIn => Grammar.declarators depth allowIn
  | ifStatement, _ => Grammar.ifStatement depth
  | forStatement, _ => Grammar.forStatement depth
  | forEach, left => Grammar.forEach depth left
  | forRest, init => Grammar.forRest depth init
  | optionalBefore, finish => Grammar.optionalBefore depth finish
  | doStatement, _ => Grammar.doStatement depth
  | returnStatement, _ => Grammar.returnStatement depth
  | throwStatement, _ => Grammar.throwStatement depth
  | tryStatement, _ => Grammar.tryStatement depth
  | catchClause, _ => Grammar.catchClause depth
  | switchStatement, _ => Grammar.switchStatement depth
  | switchCases, _ => Grammar.switchCases depth
  | caseItems, _ => Grammar.caseItems depth
  | importItems, _ => Grammar.importItems depth
  | importDeclaration, _ => Grammar.importDeclaration depth
  | exportItems, _ => Grammar.exportItems depth
  | exportDeclaration, _ => Grammar.exportDeclaration depth
  | moduleItem, _ => Grammar.moduleItem depth
  | moduleItems, _ => Grammar.moduleItems depth

end Rule

/-- The body of a function, with its calls left open. -/
inductive Body (α : Type) : Type 1 where
  | done (a : α)
  /-- Look at tokens or take some, without a call. -/
  | read {β : Type} (p : Parser β) (next : β → Body α)
  | call (rule : Rule) (args : rule.Args) (next : rule.Result → Body α)

namespace Body

variable {α β : Type}

@[simp]
def bind : Body α → (α → Body β) → Body β
  | done a, f => f a
  | read p next, f => .read p fun b => (next b).bind f
  | call rule args next, f => .call rule args fun b => (next b).bind f

instance : Monad Body where
  pure := .done
  bind := .bind

instance : MonadLiftT Parser Body where
  monadLift p := .read p .done

variable (calls : (rule : Rule) → rule.Args → Parser rule.Result)

@[simp]
def run : Body α → Parser α
  | done a => pure a
  | read p next => p >>= fun b => (next b).run
  | call rule args next => calls rule args >>= fun b => (next b).run

@[simp]
theorem run_pure (a : α) : (pure a : Body α).run calls = pure a := rfl

@[simp]
theorem run_bind (body : Body α) (f : α → Body β) :
    (body >>= f).run calls = body.run calls >>= fun a => (f a).run calls := by
  change (body.bind f).run calls = _
  induction body with
  | done a => rfl
  | read p next ih => simp only [bind, run, ih, bind_assoc]
  | call rule args next ih => simp only [bind, run, ih, bind_assoc]

@[simp]
theorem run_lift (p : Parser α) : (liftM p : Body α).run calls = p := bind_pure _

@[simp]
theorem run_ite {c : Prop} [Decidable c] (yes no : Body α) :
    (if c then yes else no).run calls = if c then yes.run calls else no.run calls :=
  apply_ite _ _ _ _

end Body

@[simp]
def call (rule : Rule) (args : rule.Args) : Body rule.Result := .call rule args .done

def operand : Body (Expression Text) := do
  let argument ← call .leftHandSide ()
  let place ← mark
  match (← current?).bind UpdateOperator.ofLexeme? with
  | none => return argument
  | some op =>
    if place.afterBreak then return argument
    advance
    unless isTarget argument do failAt place (.invalidOperand op.spelling)
    return .update op false argument

def Rule.body : (rule : Rule) → rule.Args → Body rule.Result
  | .params, _ => do
    if ← accept .parenClose then return []
    if ← isMark .ellipsis then fail (.unsupported .restParameters)
    refusePattern
    let name ← expectIdentifier
    if ← isMark .assign then fail (.unsupported .defaultParameters)
    unless ← isMark .parenClose do expect .comma
    return name :: (← call .params ())
  | .jump, result => do
    advance
    match ← current? with
    | some (.identifier _) => do
      unless (← mark).afterBreak do fail (.unsupported .labels)
      endStatement
      return result
    | _ => do
      endStatement
      return result
  | .expression, allowIn => do
    let first ← call .assignment allowIn
    if ← isMark .comma then return .sequence (first :: (← call .moreExpressions allowIn))
    else return first
  | .moreExpressions, allowIn => do
    if ← accept .comma then
      let next ← call .assignment allowIn
      return next :: (← call .moreExpressions allowIn)
    else return []
  | .assignment, allowIn => do
    if arrowAhead (← (get : Parser Tokens)).ahead then call .arrow allowIn
    else
      let left ← call .conditional allowIn
      match (← current?).bind AssignmentOperator.ofLexeme? with
      | none => return left
      | some op =>
        unless isTarget left do fail .invalidAssignmentTarget
        advance
        let right ← call .assignment allowIn
        return .assignment op left right
  | .arrow, allowIn => do
    let names ←
      if ← accept .parenOpen then call .params ()
      else do
        let name ← expectIdentifier
        pure [name]
    expect .arrow
    if ← isMark .braceOpen then return .arrowBlock names (← call .block ())
    else return .arrow names (← call .assignment allowIn)
  | .conditional, allowIn => do
    let (test, _) ← call .binary (1, allowIn)
    if ← accept .question then
      let consequent ← call .assignment true
      expect .colon
      let alternate ← call .assignment allowIn
      return .conditional test consequent alternate
    else return test
  | .binary, (least, allowIn) => do
    let isUnary := ((← current?).bind UnaryOperator.ofLexeme?).isSome
    let left ← call .unary ()
    call .climb (least, allowIn, isUnary, left, .none)
  | .climb, (least, allowIn, isUnary, left, logicals) => do
    match (← current?).bind BinaryOperator.ofLexeme? with
    | none => return (left, logicals)
    | some op =>
      let precedence := op.precedence?.getD 0
      if precedence < least || (op == .isIn && !allowIn) then return (left, logicals)
      if op == .power && isUnary then fail .unaryBeforePower
      let place ← mark
      advance
      let (right, more) ←
        call .binary (if op == .power then precedence else precedence + 1, allowIn)
      let logicals := logicals.combine more op
      if logicals.mixed then failAt place .mixedNullish
      let whole := if op.isLogical then .logical op left right else .binary op left right
      call .climb (least, allowIn, false, whole, logicals)
  | .unary, _ => do
    let token ← current?
    match token.bind UnaryOperator.ofLexeme?, token.bind UpdateOperator.ofLexeme? with
    | some op, _ => do
      advance
      return .unary op (← call .unary ())
    | none, some op => do
      let place ← mark
      advance
      let argument ← call .unary ()
      unless isTarget argument do failAt place (.invalidOperand op.spelling)
      return .update op true argument
    | none, none => operand
  | .leftHandSide, _ => do
    let head ← if ← isWord .new then call .new () else call .primary ()
    call .tail (true, head)
  | .new, _ => do
    expectWord .new
    if ← isMark .dot then fail (.unsupported .newTarget)
    let head ← if ← isWord .new then call .new () else call .primary ()
    let callee ← call .tail (false, head)
    if ← accept .parenOpen then return .new callee (← call .arguments ())
    else return .new callee []
  | .tail, (allowCall, head) => do
    if ← accept .dot then
      let name ← expectPropertyName
      call .tail (allowCall, .member head (.identifier name) false)
    else if ← accept .bracketOpen then
      let property ← call .expression true
      expect .bracketClose
      call .tail (allowCall, .member head property true)
    else if allowCall && (← isMark .parenOpen) then
      advance
      let items ← call .arguments ()
      call .tail (allowCall, .call head items)
    else if ← isMark .optional then fail (.unsupported .optionalChaining)
    else return head
  | .arguments, _ => do
    if ← accept .parenClose then return []
    if ← isMark .ellipsis then fail (.unsupported .spreadArguments)
    let item ← call .assignment true
    unless ← isMark .parenClose do expect .comma
    return item :: (← call .arguments ())
  | .primary, _ => do
    match ← current? with
    | none => fail .unexpectedEnd
    | some (.identifier name) => do
      advance
      return .identifier name
    | some (.number raw) => do
      advance
      return .literal (.number (← numberOf raw)) (some raw)
    | some (.string value) => do
      advance
      return .literal (.string value) none
    | some (.keyword .true) => do
      advance
      return .literal (.boolean true) none
    | some (.keyword .false) => do
      advance
      return .literal (.boolean false) none
    | some (.keyword .null) => do
      advance
      return .literal .null none
    | some (.keyword .this) => do
      advance
      return .this
    | some (.keyword .function) => call .functionExpression ()
    | some (.keyword word) =>
      match Unsupported.ofKeyword? word with
      | some construct => fail (.unsupported construct)
      | none => failFound .unexpected
    | some (.punctuator .parenOpen) => call .parenthesized ()
    | some (.punctuator .bracketOpen) => do
      advance
      return .array (← call .elements ())
    | some (.punctuator .braceOpen) => do
      advance
      return .object (← call .properties ())
    | some (.punctuator .slash) | some (.punctuator .divideAssign) =>
      fail (.unsupported .regularExpressions)
    | some (.punctuator _) => failFound .unexpected
  | .parenthesized, _ => do
    expect .parenOpen
    let inner ← call .expression true
    expect .parenClose
    return inner
  | .functionExpression, _ => do
    expectWord .function
    if ← isMark .star then fail (.unsupported .generators)
    let name ←
      match ← current? with
      | some (.identifier name) => do
        advance
        pure (some name)
      | _ => pure none
    expect .parenOpen
    let names ← call .params ()
    return .function name names (← call .block ())
  | .elements, _ => do
    if ← accept .bracketClose then return []
    if ← accept .comma then return none :: (← call .elements ())
    if ← isMark .ellipsis then fail (.unsupported .spreadElements)
    let item ← call .assignment true
    unless ← isMark .bracketClose do expect .comma
    return some item :: (← call .elements ())
  | .properties, _ => do
    if ← accept .braceClose then return []
    let item ← call .property ()
    unless ← isMark .braceClose do expect .comma
    return item :: (← call .properties ())
  | .property, _ => do
    match ← current? with
    | some (.punctuator .ellipsis) => fail (.unsupported .spreadProperties)
    | some (.punctuator .bracketOpen) => do
      advance
      let key ← call .assignment true
      expect .bracketClose
      call .propertyValue (key, true, none)
    | some (.identifier name) => do
      advance
      call .propertyValue (.identifier name, false, some name)
    | some (.keyword word) => do
      advance
      call .propertyValue (.identifier word.spelling, false, none)
    | some (.string value) => do
      advance
      call .propertyValue (.literal (.string value) none, false, none)
    | some (.number raw) => do
      advance
      let value ← numberOf raw
      call .propertyValue (.literal (.number value) (some raw), false, none)
    | _ => failFound .unexpectedInObject
  | .propertyValue, (key, computed, shorthand) => do
    if ← accept .colon then
      return .mk key (← call .assignment true) computed false false
    else if ← accept .parenOpen then
      let names ← call .params ()
      return .mk key (.function none names (← call .block ())) computed false true
    else
      match shorthand with
      | none => failFound (.expected Punctuator.colon.spelling)
      | some name =>
        match ← current? with
        | some (.identifier _) | some (.keyword _) =>
          if name = "get" ∨ name = "set" then fail (.unsupported .accessors)
          else return .mk key (.identifier name) false true false
        | _ => return .mk key (.identifier name) false true false
  | .block, _ => do
    expect .braceOpen
    call .blockItems ()
  | .blockItems, _ => do
    if ← accept .braceClose then return []
    if ← atEnd then failFound (.expected Punctuator.braceClose.spelling)
    let item ← call .statement ()
    return item :: (← call .blockItems ())
  | .statement, _ => do
    match ← current? with
    | none => fail .unexpectedEnd
    | some (.punctuator .braceOpen) => return .block (← call .block ())
    | some (.punctuator .semicolon) => do
      advance
      return .empty
    | some (.keyword .function) => return .declaration (← call .functionDeclaration ())
    | some (.keyword .var) => call .variableStatement .var
    | some (.keyword .let) => call .variableStatement .let
    | some (.keyword .const) => call .variableStatement .const
    | some (.keyword .if) => call .ifStatement ()
    | some (.keyword .for) => call .forStatement ()
    | some (.keyword .while) => do
      advance
      let test ← call .parenthesized ()
      return .while test (← call .statement ())
    | some (.keyword .do) => call .doStatement ()
    | some (.keyword .return) => call .returnStatement ()
    | some (.keyword .break) => call .jump .break
    | some (.keyword .continue) => call .jump .continue
    | some (.keyword .throw) => call .throwStatement ()
    | some (.keyword .try) => call .tryStatement ()
    | some (.keyword .switch) => call .switchStatement ()
    | some (.keyword .import) => fail (.onlyAtTopLevel .import)
    | some (.keyword .export) => fail (.onlyAtTopLevel .export)
    | some (.keyword word) =>
      match Unsupported.ofKeyword? word with
      | some construct => fail (.unsupported construct)
      | none => call .expressionStatement ()
    | some _ => call .expressionStatement ()
  | .expressionStatement, _ => do
    let place ← mark
    let value ← call .expression true
    match value with
    | .identifier _ => do
      if ← isMark .colon then failAt place (.unsupported .labels)
      endStatement
      return .expression value
    | _ => do
      endStatement
      return .expression value
  | .functionDeclaration, _ => do
    expectWord .function
    if ← isMark .star then fail (.unsupported .generators)
    let name ← expectIdentifier
    expect .parenOpen
    let names ← call .params ()
    return .function name names (← call .block ())
  | .variableStatement, kind => do
    return .declaration (← call .variableDeclaration kind)
  | .variableDeclaration, kind => do
    advance
    let items ← call .declarators true
    checkInitializers kind items
    endStatement
    return .variables kind items
  | .declarators, allowIn => do
    refusePattern
    let name ← expectIdentifier
    let init ←
      if ← accept .assign then do
        let value ← call .assignment allowIn
        pure (some value)
      else pure none
    if ← accept .comma then return .mk name init :: (← call .declarators allowIn)
    else return [.mk name init]
  | .ifStatement, _ => do
    expectWord .if
    let test ← call .parenthesized ()
    let consequent ← call .statement ()
    if ← acceptWord .else then return .if test consequent (some (← call .statement ()))
    else return .if test consequent none
  | .forStatement, _ => do
    expectWord .for
    expect .parenOpen
    match (← current?).bind VariableKind.ofLexeme? with
    | some kind => do
      advance
      let items ← call .declarators false
      if (← isWord .in) || (← isNext (.identifier "of")) then
        match items with
        | [.mk _ none] => call .forEach (.variables kind items)
        | _ => fail .invalidLoopTarget
      else
        checkInitializers kind items
        call .forRest (some (.variables kind items))
    | none =>
      if ← isMark .semicolon then call .forRest none
      else
        let value ← call .expression false
        if (← isWord .in) || (← isNext (.identifier "of")) then
          unless isTarget value do fail .invalidLoopTarget
          call .forEach (.expression value)
        else call .forRest (some (.expression value))
  | .forEach, left => do
    if ← acceptWord .in then
      let right ← call .expression true
      expect .parenClose
      return .forIn left right (← call .statement ())
    else
      expectContextual "of"
      let right ← call .assignment true
      expect .parenClose
      return .forOf left right (← call .statement ())
  | .forRest, init => do
    expect .semicolon
    let test ← call .optionalBefore .semicolon
    expect .semicolon
    let update ← call .optionalBefore .parenClose
    expect .parenClose
    return .for init test update (← call .statement ())
  | .optionalBefore, finish => do
    if ← isMark finish then return none
    else return some (← call .expression true)
  | .doStatement, _ => do
    expectWord .do
    let body ← call .statement ()
    expectWord .while
    let test ← call .parenthesized ()
    let _ ← accept .semicolon
    return .doWhile body test
  | .returnStatement, _ => do
    expectWord .return
    let done := (← isMark .semicolon) || (← isMark .braceClose) || (← atEnd) ||
      (← mark).afterBreak
    let argument ←
      if done then pure none
      else do
        let value ← call .expression true
        pure (some value)
    endStatement
    return .return argument
  | .throwStatement, _ => do
    expectWord .throw
    if (← mark).afterBreak then fail .breakAfterThrow
    let argument ← call .expression true
    endStatement
    return .throw argument
  | .tryStatement, _ => do
    expectWord .try
    let body ← call .block ()
    let handler ← call .catchClause ()
    let finalizer ←
      if ← acceptWord .finally then do
        let body ← call .block ()
        pure (some body)
      else pure none
    if handler.isNone && finalizer.isNone then fail .missingHandler
    return .try body handler finalizer
  | .catchClause, _ => do
    if ← acceptWord .catch then
      let param ←
        if ← accept .parenOpen then do
          refusePattern
          let name ← expectIdentifier
          expect .parenClose
          pure (some name)
        else pure none
      return some (.mk param (← call .block ()))
    else return none
  | .switchStatement, _ => do
    expectWord .switch
    let discriminant ← call .parenthesized ()
    expect .braceOpen
    return .switch discriminant (← call .switchCases ())
  | .switchCases, _ => do
    if ← accept .braceClose then return []
    let test ←
      if ← acceptWord .case then do
        let value ← call .expression true
        pure (some value)
      else do
        expectWord .default
        pure none
    expect .colon
    let body ← call .caseItems ()
    return .mk test body :: (← call .switchCases ())
  | .caseItems, _ => do
    if (← isWord .case) || (← isWord .default) || (← isMark .braceClose) then return []
    if ← atEnd then failFound (.expected Punctuator.braceClose.spelling)
    let item ← call .statement ()
    return item :: (← call .caseItems ())
  | .importItems, _ => do
    if ← accept .braceClose then return []
    let imported ← expectPropertyName
    if imported = "default" then fail (.unsupported .defaultImports)
    let bound ← if ← acceptContextual "as" then expectIdentifier else pure imported
    unless ← isMark .braceClose do expect .comma
    return ⟨imported, bound⟩ :: (← call .importItems ())
  | .importDeclaration, _ => do
    expectWord .import
    match ← current? with
    | some (.string source) => do
      advance
      endStatement
      return .importList [] (.string source)
    | some (.punctuator .star) => fail (.unsupported .namespaceImports)
    | some (.punctuator .braceOpen) => do
      advance
      let items ← call .importItems ()
      expectContextual "from"
      let source ← expectString
      endStatement
      return .importList items (.string source)
    | _ => fail (.unsupported .defaultImports)
  | .exportItems, _ => do
    if ← accept .braceClose then return []
    let bound ← expectPropertyName
    let exported ← if ← acceptContextual "as" then expectPropertyName else pure bound
    if exported = "default" then fail (.unsupported .defaultExports)
    unless ← isMark .braceClose do expect .comma
    return ⟨bound, exported⟩ :: (← call .exportItems ())
  | .exportDeclaration, _ => do
    expectWord .export
    match ← current? with
    | some (.keyword .default) => fail (.unsupported .defaultExports)
    | some (.punctuator .star) => fail (.unsupported .exportAll)
    | some (.keyword .function) => return .exportDeclaration (← call .functionDeclaration ())
    | some (.keyword .var) => return .exportDeclaration (← call .variableDeclaration .var)
    | some (.keyword .let) => return .exportDeclaration (← call .variableDeclaration .let)
    | some (.keyword .const) => return .exportDeclaration (← call .variableDeclaration .const)
    | some (.punctuator .braceOpen) => do
      advance
      let items ← call .exportItems ()
      let source ←
        if ← acceptContextual "from" then do
          let source ← expectString
          pure (some (Literal.string source))
        else pure none
      endStatement
      return .exportList items source
    | _ => failFound .unexpectedAfterExport
  | .moduleItem, _ => do
    match ← current? with
    | some (.keyword .import) => call .importDeclaration ()
    | some (.keyword .export) => call .exportDeclaration ()
    | _ => call .statement ()
  | .moduleItems, _ => do
    if ← atEnd then return []
    let item ← call .moduleItem ()
    return item :: (← call .moduleItems ())

/-! ## Functions and their bodies -/

namespace Rule

open Body

/-- The bound on depth that a function hands on. Three functions hand on the bound that they are
given. -/
@[simp]
def inner (depth : Nat) : Rule → Nat
  | importDeclaration | exportDeclaration | moduleItem => depth + 1
  | _ => depth

theorem le_inner (depth : Nat) (rule : Rule) : depth ≤ rule.inner depth := by
  cases rule with
  | importDeclaration | exportDeclaration | moduleItem => exact Nat.le_succ depth
  | _ => exact Nat.le_refl depth

theorem parser_succ (depth : Nat) (rule : Rule) (args : rule.Args) :
    rule.parser (depth + 1) args = (rule.body args).run (parser (rule.inner depth)) := by
  -- Both sides agree up to the first choice between tokens, and then for each token.
  cases rule
  all_goals
    simp only [body, parser, inner, run_bind, call, run, bind_pure, run_lift, run_ite, run_pure]
  case jump | importDeclaration | exportDeclaration =>
    refine bind_congr fun _ => bind_congr fun found => ?_
    cases found with
    | none => simp
    | some lexeme =>
      cases lexeme with
      | keyword k => cases k <;> simp
      | punctuator m => cases m <;> simp
      | _ => simp
  case primary | property | moduleItem | statement =>
    refine bind_congr fun found => ?_
    cases found with
    | none => simp
    | some lexeme =>
      cases lexeme with
      | keyword k => cases k <;> simp [Unsupported.ofKeyword?]
      | punctuator m => cases m <;> simp
      | _ => simp
  case climb =>
    refine bind_congr fun found => ?_
    cases found.bind BinaryOperator.ofLexeme? <;> simp
  case assignment =>
    refine bind_congr fun s => ?_
    congr 1
    refine bind_congr fun left => bind_congr fun found => ?_
    cases found.bind AssignmentOperator.ofLexeme? <;> simp
  case unary =>
    refine bind_congr fun found => ?_
    cases found.bind UnaryOperator.ofLexeme? with
    | some op => simp
    | none =>
      cases found.bind UpdateOperator.ofLexeme? with
      | some op => simp
      | none =>
        simp only [operand, run_bind, call, run, bind_pure, run_lift]
        refine bind_congr fun argument => bind_congr fun place => bind_congr fun found => ?_
        cases found.bind UpdateOperator.ofLexeme? <;> simp
  case functionExpression =>
    refine bind_congr fun _ => bind_congr fun star => ?_
    cases star with
    | true => rfl
    | false =>
      refine bind_congr fun found => ?_
      rcases found with _ | _ | _ | _ | _ | _ <;> simp
  case propertyValue =>
    obtain ⟨key, computed, shorthand⟩ := args
    refine bind_congr fun colon => ?_
    congr 1
    refine bind_congr fun opened => ?_
    congr 1
    cases shorthand with
    | none => rfl
    | some name =>
      refine bind_congr fun found => ?_
      rcases found with _ | _ | _ | _ | _ | _ <;> simp
  case expressionStatement =>
    refine bind_congr fun place => bind_congr fun value => ?_
    cases value <;> simp
  case forStatement =>
    refine bind_congr fun _ => bind_congr fun _ => bind_congr fun found => ?_
    cases found.bind VariableKind.ofLexeme? with
    | none => simp
    | some kind =>
      refine bind_congr fun _ => bind_congr fun items => bind_congr fun _ => bind_congr fun _ => ?_
      obtain _ | ⟨⟨_, _ | _⟩, _ | _⟩ := items <;> simp
  all_goals rfl

end Rule

/-! ## Runs -/

/-- The calls of a run in their order, each with the number of tokens ahead and the calls that it
makes. -/
inductive Calls where
  | none
  | call (rule : Rule) (ahead : Nat) (inside after : Calls)

namespace Calls

def size : Calls → Nat
  | none => 0
  | call _ _ inside after => inside.size + after.size + 1

def list : Calls → List (Rule × Nat)
  | none => []
  | call rule ahead inside after => (rule, ahead) :: (inside.list ++ after.list)

/-- Whether tokens are taken between each call of a function and every call of the same function
inside of it. -/
def Progresses : Calls → Prop
  | none => True
  | call rule ahead inside after =>
    (∀ n, (rule, n) ∈ inside.list → n < ahead) ∧ inside.Progresses ∧ after.Progresses

end Calls

/-- The runs of a body: what it gives at a place, and the calls that it makes. No bound is part of a
run. -/
inductive Body.Runs :
    {α : Type} → Body α → Tokens → Except SourceError (α × Tokens) → Calls → Prop
  | done {α} {a : α} {s} : Runs (.done a) s (.ok (a, s)) .none
  | failed {α β} {p : Parser β} {next : β → Body α} {s e} (result : p s = .error e) :
    Runs (.read p next) s (.error e) .none
  | read {α β} {p : Parser β} {next : β → Body α} {b s s' outcome calls}
    (result : p s = .ok (b, s')) (after : Runs (next b) s' outcome calls) :
    Runs (.read p next) s outcome calls
  | callFailed {α rule args} {next : rule.Result → Body α} {s e inside}
    (callee : Runs (rule.body args) s (.error e) inside) :
    Runs (.call rule args next) s (.error e) (.call rule s.ahead.length inside .none)
  | call {α rule args} {next : rule.Result → Body α} {b s s' outcome inside calls}
    (callee : Runs (rule.body args) s (.ok (b, s')) inside)
    (after : Runs (next b) s' outcome calls) :
    Runs (.call rule args next) s outcome (.call rule s.ahead.length inside calls)

theorem Body.Runs.run_eq {α : Type} {body : Body α} {s : Tokens}
    {outcome : Except SourceError (α × Tokens)} {calls : Calls} (runs : body.Runs s outcome calls)
    {depth : Nat} (deep : calls.size ≤ depth) : body.run (Rule.parser depth) s = outcome := by
  induction runs generalizing depth with
  | done => rfl
  | failed result => exact bind_error result
  | read result _ ih => exact (bind_ok result).trans (ih deep)
  | @callFailed _ rule args _ _ _ inside _ ih =>
    obtain _ | depth := depth
    · cases deep
    have enough : inside.size ≤ rule.inner depth :=
      Nat.le_trans (Nat.le_of_succ_le_succ deep) (rule.le_inner depth)
    refine bind_error (x := rule.parser (depth + 1) args) ?_
    rw [rule.parser_succ]
    exact ih enough
  | @call _ rule args _ _ _ _ _ inside calls _ _ ih after =>
    obtain _ | depth := depth
    · cases deep
    have deep : inside.size + calls.size ≤ depth := Nat.le_of_succ_le_succ deep
    have enough : inside.size ≤ rule.inner depth :=
      Nat.le_trans (Nat.le_of_add_right_le deep) (rule.le_inner depth)
    refine (bind_ok (x := rule.parser (depth + 1) args) ?_).trans (after (by omega))
    rw [rule.parser_succ]
    exact ih enough

end Grammar

end LibraryDescriptor
