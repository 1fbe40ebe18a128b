import LibraryDescriptor.Parser.Basic

/-!
# The grammar of statements and expressions

Recursive descent, one function for each construct, with precedence climbing for binary operators.
The first argument of each function bounds the depth of the calls; it grows with the number of
tokens (`Grammar.depthBound`), and between two calls of one function a token is taken.

The argument `allowIn` tells whether `in` is an operator: it is not in the head of a `for` loop,
where it separates the target from the object.
-/

namespace LibraryDescriptor

namespace Grammar

open LibraryDescriptor.Parser

/-! ## Conditions on trees and tokens -/

def isTarget {ν : Type} : Expression ν → Bool
  | .identifier _ | .member _ _ _ => true
  | _ => false

/-- Which of the operators that must not be mixed a chain of operators uses outside parentheses. -/
structure Logicals where
  nullish : Bool
  andOr : Bool
  deriving DecidableEq

namespace Logicals

def none : Logicals := ⟨false, false⟩

/-- The chain made of two chains and the operator between them. -/
def combine (left right : Logicals) (op : BinaryOperator) : Logicals :=
  ⟨left.nullish || right.nullish || op == .nullish,
   left.andOr || right.andOr || op == .or || op == .and⟩

def mixed (l : Logicals) : Bool := l.nullish && l.andOr

end Logicals

def afterParens? : Nat → List Token → Option (List Token)
  | _, [] => none
  | depth, token :: rest =>
    match token.lexeme with
    | .punctuator .parenOpen => afterParens? (depth + 1) rest
    | .punctuator .parenClose =>
      match depth with
      | 0 => some rest
      | depth + 1 => afterParens? depth rest
    | _ => afterParens? depth rest

/-- Whether the first token is an arrow on the same line as the token before. -/
def startsWithArrow : List Token → Bool
  | [] => false
  | token :: _ => token.lexeme == .punctuator .arrow && !token.mark.afterBreak

/-- Whether an arrow function is ahead: a name or a parenthesized list followed by an arrow. -/
def arrowAhead : List Token → Bool
  | [] => false
  | token :: rest =>
    match token.lexeme with
    | .identifier _ => startsWithArrow rest
    | .punctuator .parenOpen => ((afterParens? 0 rest).map startsWithArrow).getD false
    | _ => false

/-- The first variable of a `const` declaration that has no initializer. -/
def uninitialized? (kind : VariableKind) (declarators : List (Declarator Text)) : Option Text :=
  if kind = .const then (declarators.find? (·.init.isNone)).map Declarator.name else none

/-- Fail if a `const` declaration leaves a variable without an initializer. -/
def checkInitializers (kind : VariableKind) (declarators : List (Declarator Text)) :
    Parser Unit :=
  match uninitialized? kind declarators with
  | some name => fail (.missingInitializer name)
  | none => return

def params : Nat → Parser (List Text)
  | 0 => throw .exhausted
  | depth + 1 => do
    if ← accept .parenClose then return []
    if ← isMark .ellipsis then fail (.unsupported .restParameters)
    refusePattern
    let name ← expectIdentifier
    if ← isMark .assign then fail (.unsupported .defaultParameters)
    unless ← isMark .parenClose do expect .comma
    return name :: (← params depth)

def jump (result : Statement Text) : Parser (Statement Text) := do
  advance
  match ← current? with
  | some (.identifier _) => do
    unless (← mark).afterBreak do fail (.unsupported .labels)
    endStatement
    return result
  | _ => do
    endStatement
    return result

/-!
## The grammar

A function is called where its construct may start, and reads up to the end of the construct.
Functions named in the plural read the rest of a list, up to the bracket that closes it if there is
one.
-/

mutual

def expression : Nat → Bool → Parser (Expression Text)
  | 0, _ => throw .exhausted
  | depth + 1, allowIn => do
    let first ← assignment depth allowIn
    if ← isMark .comma then
      return .sequence (first :: (← moreExpressions depth allowIn))
    else return first

def moreExpressions : Nat → Bool → Parser (List (Expression Text))
  | 0, _ => throw .exhausted
  | depth + 1, allowIn => do
    if ← accept .comma then
      let next ← assignment depth allowIn
      return next :: (← moreExpressions depth allowIn)
    else return []

def assignment : Nat → Bool → Parser (Expression Text)
  | 0, _ => throw .exhausted
  | depth + 1, allowIn => do
    if arrowAhead (← get).ahead then arrow depth allowIn
    else
      let left ← conditional depth allowIn
      match (← current?).bind AssignmentOperator.ofLexeme? with
      | none => return left
      | some op =>
        unless isTarget left do fail .invalidAssignmentTarget
        advance
        let right ← assignment depth allowIn
        return .assignment op left right

def arrow : Nat → Bool → Parser (Expression Text)
  | 0, _ => throw .exhausted
  | depth + 1, allowIn => do
    let names ←
      if ← accept .parenOpen then params depth
      else do
        let name ← expectIdentifier
        pure [name]
    expect .arrow
    if ← isMark .braceOpen then return .arrowBlock names (← block depth)
    else return .arrow names (← assignment depth allowIn)

/-- A chain of binary operators, or a choice between two expressions. -/
def conditional : Nat → Bool → Parser (Expression Text)
  | 0, _ => throw .exhausted
  | depth + 1, allowIn => do
    let (test, _) ← binary depth 1 allowIn
    if ← accept .question then
      let consequent ← assignment depth true
      expect .colon
      let alternate ← assignment depth allowIn
      return .conditional test consequent alternate
    else return test

def binary : Nat → Nat → Bool → Parser (Expression Text × Logicals)
  | 0, _, _ => throw .exhausted
  | depth + 1, least, allowIn => do
    let isUnary := ((← current?).bind UnaryOperator.ofLexeme?).isSome
    let left ← unary depth
    climb depth least allowIn isUnary left .none

/-- The rest of a chain whose first operand is `left`; `isUnary` tells whether that operand starts
with a unary operator, `logicals` which logical operators it uses. -/
def climb : Nat → Nat → Bool → Bool → Expression Text → Logicals →
    Parser (Expression Text × Logicals)
  | 0, _, _, _, _, _ => throw .exhausted
  | depth + 1, least, allowIn, isUnary, left, logicals => do
    match (← current?).bind BinaryOperator.ofLexeme? with
    | none => return (left, logicals)
    | some op =>
      let precedence := op.precedence?.getD 0
      if precedence < least || (op == .isIn && !allowIn) then return (left, logicals)
      if op == .power && isUnary then fail .unaryBeforePower
      let place ← mark
      advance
      -- A power groups to the right, every other operator to the left.
      let (right, more) ←
        binary depth (if op == .power then precedence else precedence + 1) allowIn
      let logicals := logicals.combine more op
      if logicals.mixed then failAt place .mixedNullish
      let whole := if op.isLogical then .logical op left right else .binary op left right
      climb depth least allowIn false whole logicals

/-- Operators in front of an operand, and a step counter behind one. -/
def unary : Nat → Parser (Expression Text)
  | 0 => throw .exhausted
  | depth + 1 => do
    let token ← current?
    match token.bind UnaryOperator.ofLexeme?, token.bind UpdateOperator.ofLexeme? with
    | some op, _ => do
      advance
      return .unary op (← unary depth)
    | none, some op => do
      let place ← mark
      advance
      let argument ← unary depth
      unless isTarget argument do failAt place (.invalidOperand op.spelling)
      return .update op true argument
    | none, none => do
      let argument ← leftHandSide depth
      let place ← mark
      match (← current?).bind UpdateOperator.ofLexeme? with
      | none => return argument
      | some op =>
        if place.afterBreak then return argument
        advance
        unless isTarget argument do failAt place (.invalidOperand op.spelling)
        return .update op false argument

def leftHandSide : Nat → Parser (Expression Text)
  | 0 => throw .exhausted
  | depth + 1 => do
    let head ← if ← isWord .new then new depth else primary depth
    tail depth true head

/-- A `new` expression; its arguments may be missing. -/
def new : Nat → Parser (Expression Text)
  | 0 => throw .exhausted
  | depth + 1 => do
    expectWord .new
    if ← isMark .dot then fail (.unsupported .newTarget)
    let head ← if ← isWord .new then new depth else primary depth
    let callee ← tail depth false head
    if ← accept .parenOpen then return .new callee (← arguments depth)
    else return .new callee []

def tail : Nat → Bool → Expression Text → Parser (Expression Text)
  | 0, _, _ => throw .exhausted
  | depth + 1, allowCall, head => do
    if ← accept .dot then
      let name ← expectPropertyName
      tail depth allowCall (.member head (.identifier name) false)
    else if ← accept .bracketOpen then
      let property ← expression depth true
      expect .bracketClose
      tail depth allowCall (.member head property true)
    else if allowCall && (← isMark .parenOpen) then
      advance
      let items ← arguments depth
      tail depth allowCall (.call head items)
    else if ← isMark .optional then fail (.unsupported .optionalChaining)
    else return head

def arguments : Nat → Parser (List (Expression Text))
  | 0 => throw .exhausted
  | depth + 1 => do
    if ← accept .parenClose then return []
    if ← isMark .ellipsis then fail (.unsupported .spreadArguments)
    let item ← assignment depth true
    unless ← isMark .parenClose do expect .comma
    return item :: (← arguments depth)

def primary : Nat → Parser (Expression Text)
  | 0 => throw .exhausted
  | depth + 1 => do
    match ← current? with
    | none => fail .unexpectedEnd
    | some (.identifier name) => do
      advance
      return .identifier name
    | some (.number raw) => do
      advance
      return .literal (.number (← numberOf raw)) (some raw)
    | some (.string value) => do
      advance
      return .literal (.string value) none
    | some (.keyword .true) => do
      advance
      return .literal (.boolean true) none
    | some (.keyword .false) => do
      advance
      return .literal (.boolean false) none
    | some (.keyword .null) => do
      advance
      return .literal .null none
    | some (.keyword .this) => do
      advance
      return .this
    | some (.keyword .function) => functionExpression depth
    | some (.keyword word) =>
      match Unsupported.ofKeyword? word with
      | some construct => fail (.unsupported construct)
      | none => failFound .unexpected
    | some (.punctuator .parenOpen) => parenthesized depth
    | some (.punctuator .bracketOpen) => do
      advance
      return .array (← elements depth)
    | some (.punctuator .braceOpen) => do
      advance
      return .object (← properties depth)
    | some (.punctuator .slash) | some (.punctuator .divideAssign) =>
      fail (.unsupported .regularExpressions)
    | some (.punctuator _) => failFound .unexpected

def parenthesized : Nat → Parser (Expression Text)
  | 0 => throw .exhausted
  | depth + 1 => do
    expect .parenOpen
    let inner ← expression depth true
    expect .parenClose
    return inner

def functionExpression : Nat → Parser (Expression Text)
  | 0 => throw .exhausted
  | depth + 1 => do
    expectWord .function
    if ← isMark .star then fail (.unsupported .generators)
    let name ←
      match ← current? with
      | some (.identifier name) => do
        advance
        pure (some name)
      | _ => pure none
    expect .parenOpen
    let names ← params depth
    return .function name names (← block depth)

/-- Elements of an array up to the closing bracket; nothing in front of a comma is a hole. -/
def elements : Nat → Parser (List (Option (Expression Text)))
  | 0 => throw .exhausted
  | depth + 1 => do
    if ← accept .bracketClose then return []
    if ← accept .comma then return none :: (← elements depth)
    if ← isMark .ellipsis then fail (.unsupported .spreadElements)
    let item ← assignment depth true
    unless ← isMark .bracketClose do expect .comma
    return some item :: (← elements depth)

def properties : Nat → Parser (List (Property Text))
  | 0 => throw .exhausted
  | depth + 1 => do
    if ← accept .braceClose then return []
    let item ← property depth
    unless ← isMark .braceClose do expect .comma
    return item :: (← properties depth)

/-- An entry of an object: a key with a value, a method, or a name that is both. -/
def property : Nat → Parser (Property Text)
  | 0 => throw .exhausted
  | depth + 1 => do
    match ← current? with
    | some (.punctuator .ellipsis) => fail (.unsupported .spreadProperties)
    | some (.punctuator .bracketOpen) => do
      advance
      let key ← assignment depth true
      expect .bracketClose
      propertyValue depth key true none
    | some (.identifier name) => do
      advance
      propertyValue depth (.identifier name) false (some name)
    | some (.keyword word) => do
      advance
      propertyValue depth (.identifier word.spelling) false none
    | some (.string value) => do
      advance
      propertyValue depth (.literal (.string value) none) false none
    | some (.number raw) => do
      advance
      let value ← numberOf raw
      propertyValue depth (.literal (.number value) (some raw)) false none
    | _ => failFound .unexpectedInObject

/-- What follows the key of an entry; a key that is the identifier `shorthand` can stand alone. -/
def propertyValue : Nat → Expression Text → Bool → Option Text → Parser (Property Text)
  | 0, _, _, _ => throw .exhausted
  | depth + 1, key, computed, shorthand => do
    if ← accept .colon then
      return .mk key (← assignment depth true) computed false false
    else if ← accept .parenOpen then
      let names ← params depth
      return .mk key (.function none names (← block depth)) computed false true
    else
      match shorthand with
      | none => failFound (.expected Punctuator.colon.spelling)
      | some name =>
        match ← current? with
        | some (.identifier _) | some (.keyword _) =>
          if name = "get" ∨ name = "set" then fail (.unsupported .accessors)
          else return .mk key (.identifier name) false true false
        | _ => return .mk key (.identifier name) false true false

def block : Nat → Parser (List (Statement Text))
  | 0 => throw .exhausted
  | depth + 1 => do
    expect .braceOpen
    blockItems depth

def blockItems : Nat → Parser (List (Statement Text))
  | 0 => throw .exhausted
  | depth + 1 => do
    if ← accept .braceClose then return []
    if ← atEnd then failFound (.expected Punctuator.braceClose.spelling)
    let item ← statement depth
    return item :: (← blockItems depth)

def statement : Nat → Parser (Statement Text)
  | 0 => throw .exhausted
  | depth + 1 => do
    match ← current? with
    | none => fail .unexpectedEnd
    | some (.punctuator .braceOpen) => return .block (← block depth)
    | some (.punctuator .semicolon) => do
      advance
      return .empty
    | some (.keyword .function) => return .declaration (← functionDeclaration depth)
    | some (.keyword .var) => variableStatement depth .var
    | some (.keyword .let) => variableStatement depth .let
    | some (.keyword .const) => variableStatement depth .const
    | some (.keyword .if) => ifStatement depth
    | some (.keyword .for) => forStatement depth
    | some (.keyword .while) => do
      advance
      let test ← parenthesized depth
      return .while test (← statement depth)
    | some (.keyword .do) => doStatement depth
    | some (.keyword .return) => returnStatement depth
    | some (.keyword .break) => jump .break
    | some (.keyword .continue) => jump .continue
    | some (.keyword .throw) => throwStatement depth
    | some (.keyword .try) => tryStatement depth
    | some (.keyword .switch) => switchStatement depth
    | some (.keyword .import) => fail (.onlyAtTopLevel .import)
    | some (.keyword .export) => fail (.onlyAtTopLevel .export)
    | some (.keyword word) =>
      match Unsupported.ofKeyword? word with
      | some construct => fail (.unsupported construct)
      | none => expressionStatement depth
    | some _ => expressionStatement depth

def expressionStatement : Nat → Parser (Statement Text)
  | 0 => throw .exhausted
  | depth + 1 => do
    let place ← mark
    let value ← expression depth true
    match value with
    | .identifier _ => do
      if ← isMark .colon then failAt place (.unsupported .labels)
      endStatement
      return .expression value
    | _ => do
      endStatement
      return .expression value

def functionDeclaration : Nat → Parser (Declaration Text)
  | 0 => throw .exhausted
  | depth + 1 => do
    expectWord .function
    if ← isMark .star then fail (.unsupported .generators)
    let name ← expectIdentifier
    expect .parenOpen
    let names ← params depth
    return .function name names (← block depth)

def variableStatement : Nat → VariableKind → Parser (Statement Text)
  | 0, _ => throw .exhausted
  | depth + 1, kind => do
    return .declaration (← variableDeclaration depth kind)

def variableDeclaration : Nat → VariableKind → Parser (Declaration Text)
  | 0, _ => throw .exhausted
  | depth + 1, kind => do
    advance
    let items ← declarators depth true
    checkInitializers kind items
    endStatement
    return .variables kind items

def declarators : Nat → Bool → Parser (List (Declarator Text))
  | 0, _ => throw .exhausted
  | depth + 1, allowIn => do
    refusePattern
    let name ← expectIdentifier
    let init ←
      if ← accept .assign then do
        let value ← assignment depth allowIn
        pure (some value)
      else pure none
    if ← accept .comma then return .mk name init :: (← declarators depth allowIn)
    else return [.mk name init]

/-- An `if` statement; an `else` belongs to the nearest one. -/
def ifStatement : Nat → Parser (Statement Text)
  | 0 => throw .exhausted
  | depth + 1 => do
    expectWord .if
    let test ← parenthesized depth
    let consequent ← statement depth
    if ← acceptWord .else then return .if test consequent (some (← statement depth))
    else return .if test consequent none

def forStatement : Nat → Parser (Statement Text)
  | 0 => throw .exhausted
  | depth + 1 => do
    expectWord .for
    expect .parenOpen
    match (← current?).bind VariableKind.ofLexeme? with
    | some kind => do
      advance
      let items ← declarators depth false
      if (← isWord .in) || (← isNext (.identifier "of")) then
        match items with
        | [.mk _ none] => forEach depth (.variables kind items)
        | _ => fail .invalidLoopTarget
      else
        checkInitializers kind items
        forRest depth (some (.variables kind items))
    | none =>
      if ← isMark .semicolon then forRest depth none
      else
        let value ← expression depth false
        if (← isWord .in) || (← isNext (.identifier "of")) then
          unless isTarget value do fail .invalidLoopTarget
          forEach depth (.expression value)
        else forRest depth (some (.expression value))

/-- A loop over keys or items, from the word behind its target on. -/
def forEach : Nat → LoopHead Text → Parser (Statement Text)
  | 0, _ => throw .exhausted
  | depth + 1, left => do
    if ← acceptWord .in then
      let right ← expression depth true
      expect .parenClose
      return .forIn left right (← statement depth)
    else
      expectContextual "of"
      let right ← assignment depth true
      expect .parenClose
      return .forOf left right (← statement depth)

def forRest : Nat → Option (LoopHead Text) → Parser (Statement Text)
  | 0, _ => throw .exhausted
  | depth + 1, init => do
    expect .semicolon
    let test ← optionalBefore depth .semicolon
    expect .semicolon
    let update ← optionalBefore depth .parenClose
    expect .parenClose
    return .for init test update (← statement depth)

/-- An expression, unless the punctuator that ends it comes at once. -/
def optionalBefore : Nat → Punctuator → Parser (Option (Expression Text))
  | 0, _ => throw .exhausted
  | depth + 1, finish => do
    if ← isMark finish then return none
    else return some (← expression depth true)

def doStatement : Nat → Parser (Statement Text)
  | 0 => throw .exhausted
  | depth + 1 => do
    expectWord .do
    let body ← statement depth
    expectWord .while
    let test ← parenthesized depth
    let _ ← accept .semicolon
    return .doWhile body test

/-- A `return` statement; a line break ends it. -/
def returnStatement : Nat → Parser (Statement Text)
  | 0 => throw .exhausted
  | depth + 1 => do
    expectWord .return
    let done := (← isMark .semicolon) || (← isMark .braceClose) || (← atEnd) ||
      (← mark).afterBreak
    let argument ←
      if done then pure none
      else do
        let value ← expression depth true
        pure (some value)
    endStatement
    return .return argument

/-- A `throw` statement; its argument starts on the same line. -/
def throwStatement : Nat → Parser (Statement Text)
  | 0 => throw .exhausted
  | depth + 1 => do
    expectWord .throw
    if (← mark).afterBreak then fail .breakAfterThrow
    let argument ← expression depth true
    endStatement
    return .throw argument

def tryStatement : Nat → Parser (Statement Text)
  | 0 => throw .exhausted
  | depth + 1 => do
    expectWord .try
    let body ← block depth
    let handler ← catchClause depth
    let finalizer ←
      if ← acceptWord .finally then do
        let body ← block depth
        pure (some body)
      else pure none
    if handler.isNone && finalizer.isNone then fail .missingHandler
    return .try body handler finalizer

/-- The handler of a `try` statement, if there is one. -/
def catchClause : Nat → Parser (Option (CatchClause Text))
  | 0 => throw .exhausted
  | depth + 1 => do
    if ← acceptWord .catch then
      let param ←
        if ← accept .parenOpen then do
          refusePattern
          let name ← expectIdentifier
          expect .parenClose
          pure (some name)
        else pure none
      return some (.mk param (← block depth))
    else return none

def switchStatement : Nat → Parser (Statement Text)
  | 0 => throw .exhausted
  | depth + 1 => do
    expectWord .switch
    let discriminant ← parenthesized depth
    expect .braceOpen
    return .switch discriminant (← switchCases depth)

def switchCases : Nat → Parser (List (SwitchCase Text))
  | 0 => throw .exhausted
  | depth + 1 => do
    if ← accept .braceClose then return []
    let test ←
      if ← acceptWord .case then do
        let value ← expression depth true
        pure (some value)
      else do
        expectWord .default
        pure none
    expect .colon
    let body ← caseItems depth
    return .mk test body :: (← switchCases depth)

def caseItems : Nat → Parser (List (Statement Text))
  | 0 => throw .exhausted
  | depth + 1 => do
    if (← isWord .case) || (← isWord .default) || (← isMark .braceClose) then return []
    if ← atEnd then failFound (.expected Punctuator.braceClose.spelling)
    let item ← statement depth
    return item :: (← caseItems depth)

end

def depthBound (tokens : Tokens) : Nat := 16 * (tokens.ahead.length + 1)

end Grammar

end LibraryDescriptor
