import LibraryDescriptor.Parser.Module
import LibraryDescriptor.Printer.Basic
import LibraryDescriptor.Proofs.Token.Lexeme

/-!
# Trees that the grammar has

Which trees can come out of the parser. Parentheses are not part of a tree, so every expression can
stand wherever the grammar has an expression; what is left are conditions on names, literals and
operators, on the targets of assignments, and on an `else` behind a statement that would take it.

* `Expression.Grammatical`, `Statement.Grammatical` and their siblings.
* `Statement.IsItem` — the statements of a module, imports and exports among them.
* `Expression.tally`, `Statement.tally` — a tree weighed by its arrow functions with blocks and its
  loops with first clauses.
-/

namespace LibraryDescriptor

/-- Whether a statement ends with an `if` statement that would take an `else`. -/
def Statement.endsOpen {ν : Type} : Statement ν → Bool
  | .if _ _ none => true
  | .if _ _ (some alternate) => alternate.endsOpen
  | .for _ _ _ body | .forIn _ _ body | .forOf _ _ body | .while _ body => body.endsOpen
  | _ => false

theorem takesElse_of_closed {s : Statement Text} (closed : s.endsOpen = false) :
    takesElse s = false := by
  unfold takesElse
  split
  · cases closed
  · rfl

mutual

inductive Expression.Grammatical : Expression Text → Prop where
  | identifier : name.IsName → Expression.Grammatical (.identifier name)
  | number : Numeral.IsSpelling raw → Numeral.value? raw = some value →
      Expression.Grammatical (.literal (.number value) (some raw))
  | string : Expression.Grammatical (.literal (.string value) none)
  | boolean : Expression.Grammatical (.literal (.boolean value) none)
  | null : Expression.Grammatical (.literal .null none)
  | this : Expression.Grammatical .this
  | array : (∀ e, some e ∈ elements → e.Grammatical) → Expression.Grammatical (.array elements)
  | object : (∀ p ∈ properties, p.Grammatical) → Expression.Grammatical (.object properties)
  | function : (∀ n ∈ name, Text.IsName n) → (∀ n ∈ params, Text.IsName n) →
      (∀ s ∈ body, s.Grammatical) → Expression.Grammatical (.function name params body)
  | arrow : (∀ n ∈ params, Text.IsName n) → body.Grammatical →
      Expression.Grammatical (.arrow params body)
  | arrowBlock : (∀ n ∈ params, Text.IsName n) → (∀ s ∈ body, s.Grammatical) →
      Expression.Grammatical (.arrowBlock params body)
  | unary : UnaryOperator.ofLexeme? op.lexeme = some op → argument.Grammatical →
      Expression.Grammatical (.unary op argument)
  | update : UpdateOperator.ofLexeme? op.lexeme = some op → Grammar.isTarget argument = true →
      argument.Grammatical → Expression.Grammatical (.update op inFront argument)
  | binary : BinaryOperator.ofLexeme? op.lexeme = some op → op.isLogical = false →
      left.Grammatical → right.Grammatical → Expression.Grammatical (.binary op left right)
  | logical : BinaryOperator.ofLexeme? op.lexeme = some op → op.isLogical = true →
      left.Grammatical → right.Grammatical → Expression.Grammatical (.logical op left right)
  | assignment : AssignmentOperator.ofLexeme? op.lexeme = some op → Grammar.isTarget left = true →
      left.Grammatical → right.Grammatical → Expression.Grammatical (.assignment op left right)
  | conditional : test.Grammatical → consequent.Grammatical → alternate.Grammatical →
      Expression.Grammatical (.conditional test consequent alternate)
  | call : callee.Grammatical → (∀ e ∈ arguments, e.Grammatical) →
      Expression.Grammatical (.call callee arguments)
  | new : callee.Grammatical → (∀ e ∈ arguments, e.Grammatical) →
      Expression.Grammatical (.new callee arguments)
  | dotted : object.Grammatical → Text.isWord name = true →
      Expression.Grammatical (.member object (.identifier name) false)
  | computed : object.Grammatical → property.Grammatical →
      Expression.Grammatical (.member object property true)
  | sequence : 2 ≤ expressions.length → (∀ e ∈ expressions, e.Grammatical) →
      Expression.Grammatical (.sequence expressions)

inductive Expression.IsKey : Expression Text → Bool → Prop where
  | name : Text.isWord name = true → Expression.IsKey (.identifier name) false
  | string : Expression.IsKey (.literal (.string value) none) false
  | number : Numeral.IsSpelling raw → Numeral.value? raw = some value →
      Expression.IsKey (.literal (.number value) (some raw)) false
  | computed : key.Grammatical → Expression.IsKey key true

inductive Property.Grammatical : Property Text → Prop where
  | pair : key.IsKey computed → value.Grammatical →
      Property.Grammatical (.mk key value computed false false)
  | method : key.IsKey computed → (∀ n ∈ params, Text.IsName n) → (∀ s ∈ body, s.Grammatical) →
      Property.Grammatical (.mk key (.function none params body) computed false true)
  | shorthand : Text.IsName name →
      Property.Grammatical (.mk (.identifier name) (.identifier name) false true false)

inductive Declarator.Grammatical : Declarator Text → Prop where
  | mk : Text.IsName name → (∀ e ∈ init, e.Grammatical) → Declarator.Grammatical (.mk name init)

inductive Declaration.Grammatical : Declaration Text → Prop where
  | function : Text.IsName name → (∀ n ∈ params, Text.IsName n) → (∀ s ∈ body, s.Grammatical) →
      Declaration.Grammatical (.function name params body)
  | variables : declarators ≠ [] → Grammar.uninitialized? kind declarators = none →
      (∀ d ∈ declarators, d.Grammatical) →
      Declaration.Grammatical (.variables kind declarators)

/-- A first clause of a counting loop. -/
inductive LoopHead.Grammatical : LoopHead Text → Prop where
  | variables : declarators ≠ [] → Grammar.uninitialized? kind declarators = none →
      (∀ d ∈ declarators, d.Grammatical) →
      LoopHead.Grammatical (.variables kind declarators)
  | expression : value.Grammatical → LoopHead.Grammatical (.expression value)

/-- A target of a loop over keys or items: a variable without an initializer, or what can be
assigned to. -/
inductive LoopHead.IsTarget : LoopHead Text → Prop where
  | variable : Text.IsName name → LoopHead.IsTarget (.variables kind [.mk name none])
  | expression : Grammar.isTarget value = true → value.Grammatical →
      LoopHead.IsTarget (.expression value)

inductive CatchClause.Grammatical : CatchClause Text → Prop where
  | mk : (∀ n ∈ param, Text.IsName n) → (∀ s ∈ body, s.Grammatical) →
      CatchClause.Grammatical (.mk param body)

inductive SwitchCase.Grammatical : SwitchCase Text → Prop where
  | mk : (∀ e ∈ test, e.Grammatical) → (∀ s ∈ consequent, s.Grammatical) →
      SwitchCase.Grammatical (.mk test consequent)

inductive Statement.Grammatical : Statement Text → Prop where
  | declaration : value.Grammatical → Statement.Grammatical (.declaration value)
  | expression : value.Grammatical → Statement.Grammatical (.expression value)
  | block : (∀ s ∈ body, s.Grammatical) → Statement.Grammatical (.block body)
  | return : (∀ e ∈ argument, e.Grammatical) → Statement.Grammatical (.return argument)
  | ifThen : test.Grammatical → consequent.Grammatical →
      Statement.Grammatical (.if test consequent none)
  | ifElse : test.Grammatical → consequent.Grammatical → consequent.endsOpen = false →
      alternate.Grammatical → Statement.Grammatical (.if test consequent (some alternate))
  | for : (∀ head ∈ init, head.Grammatical) → (∀ e ∈ test, e.Grammatical) →
      (∀ e ∈ update, e.Grammatical) → body.Grammatical →
      Statement.Grammatical (.for init test update body)
  | forIn : left.IsTarget → right.Grammatical → body.Grammatical →
      Statement.Grammatical (.forIn left right body)
  | forOf : left.IsTarget → right.Grammatical → body.Grammatical →
      Statement.Grammatical (.forOf left right body)
  | while : test.Grammatical → body.Grammatical → Statement.Grammatical (.while test body)
  | doWhile : body.Grammatical → test.Grammatical → Statement.Grammatical (.doWhile body test)
  | break : Statement.Grammatical .break
  | continue : Statement.Grammatical .continue
  | throw : argument.Grammatical → Statement.Grammatical (.throw argument)
  | try : (∀ s ∈ block, s.Grammatical) → (∀ h ∈ handler, h.Grammatical) →
      (∀ body ∈ finalizer, ∀ s ∈ body, s.Grammatical) →
      (handler.isSome || finalizer.isSome) = true →
      Statement.Grammatical (.try block handler finalizer)
  | switch : discriminant.Grammatical → (∀ c ∈ cases, c.Grammatical) →
      Statement.Grammatical (.switch discriminant cases)
  | empty : Statement.Grammatical .empty

end

/-- A name that is imported, and the name that it gets: itself, or one of its own. -/
structure ImportSpecifier.Grammatical (s : ImportSpecifier Text) : Prop where
  word : s.imported.isWord = true
  named : s.imported ≠ Text.ofString "default"
  bound : s.bound = s.imported ∨ s.bound.IsName

structure ExportSpecifier.Grammatical (s : ExportSpecifier Text) : Prop where
  word : s.bound.isWord = true
  exported : s.exported.isWord = true
  named : s.exported ≠ Text.ofString "default"

inductive Statement.IsItem : Statement Text → Prop where
  | statement : s.Grammatical → Statement.IsItem s
  | exportDeclaration : value.Grammatical → Statement.IsItem (.exportDeclaration value)
  | exportList (source : Option Text) : (∀ s ∈ specifiers, s.Grammatical) →
      Statement.IsItem (.exportList specifiers (source.map .string))
  | importList : (∀ s ∈ specifiers, s.Grammatical) →
      Statement.IsItem (.importList specifiers (.string source))

/-! ## Weights -/

section Tally

variable (arrow loop : Nat)

mutual

/-- The weight of an expression, in which each arrow function with a block weighs `arrow` and each
`for` loop with a first clause weighs `loop`. -/
def Expression.tally : Expression Text → Nat
  | .identifier _ | .literal _ _ | .this => 0
  | .array elements => Expression.tallyElements elements
  | .object properties => Property.tallyList properties
  | .function _ _ body => Statement.tallyList body
  | .arrow _ body => body.tally
  | .arrowBlock _ body => arrow + Statement.tallyList body
  | .unary _ argument | .update _ _ argument => argument.tally
  | .binary _ left right | .logical _ left right | .assignment _ left right =>
    left.tally + right.tally
  | .conditional test consequent alternate => test.tally + consequent.tally + alternate.tally
  | .call callee arguments | .new callee arguments =>
    callee.tally + Expression.tallyList arguments
  | .member object property computed =>
    object.tally + if computed then property.tally else 0
  | .sequence expressions => Expression.tallyList expressions

def Expression.tallyList : List (Expression Text) → Nat
  | [] => 0
  | e :: es => e.tally + Expression.tallyList es

def Expression.tallyElements : List (Option (Expression Text)) → Nat
  | [] => 0
  | none :: es => Expression.tallyElements es
  | some e :: es => e.tally + Expression.tallyElements es

def Expression.tallyOption : Option (Expression Text) → Nat
  | none => 0
  | some e => e.tally

def Property.tally : Property Text → Nat
  | .mk key value computed shorthand _ =>
    (if computed then key.tally else 0) + if shorthand then 0 else value.tally

def Property.tallyList : List (Property Text) → Nat
  | [] => 0
  | p :: ps => p.tally + Property.tallyList ps

def Declarator.tally : Declarator Text → Nat
  | .mk _ init => Expression.tallyOption init

def Declarator.tallyList : List (Declarator Text) → Nat
  | [] => 0
  | d :: ds => d.tally + Declarator.tallyList ds

def Declaration.tally : Declaration Text → Nat
  | .function _ _ body => Statement.tallyList body
  | .variables _ declarators => Declarator.tallyList declarators

def LoopHead.tally : LoopHead Text → Nat
  | .variables _ declarators => Declarator.tallyList declarators
  | .expression value => value.tally

def LoopHead.tallyOption : Option (LoopHead Text) → Nat
  | none => 0
  | some head => loop + head.tally

def CatchClause.tallyOption : Option (CatchClause Text) → Nat
  | none => 0
  | some (.mk _ body) => Statement.tallyList body

def SwitchCase.tallyList : List (SwitchCase Text) → Nat
  | [] => 0
  | .mk test consequent :: cases =>
    Expression.tallyOption test + Statement.tallyList consequent + SwitchCase.tallyList cases

def Statement.tally : Statement Text → Nat
  | .declaration value | .exportDeclaration value => value.tally
  | .exportList _ _ | .importList _ _ | .break | .continue | .empty => 0
  | .expression value | .throw value => value.tally
  | .block body => Statement.tallyList body
  | .return argument => Expression.tallyOption argument
  | .if test consequent alternate =>
    test.tally + consequent.tally + Statement.tallyOption alternate
  | .for init test update body =>
    LoopHead.tallyOption init + Expression.tallyOption test + Expression.tallyOption update +
      body.tally
  | .forIn left right body | .forOf left right body => left.tally + right.tally + body.tally
  | .while test body => test.tally + body.tally
  | .doWhile body test => body.tally + test.tally
  | .try block handler finalizer =>
    Statement.tallyList block + CatchClause.tallyOption handler +
      Statement.tallyFinalizer finalizer
  | .switch discriminant cases => discriminant.tally + SwitchCase.tallyList cases

def Statement.tallyList : List (Statement Text) → Nat
  | [] => 0
  | s :: ss => s.tally + Statement.tallyList ss

def Statement.tallyOption : Option (Statement Text) → Nat
  | none => 0
  | some s => s.tally

def Statement.tallyFinalizer : Option (List (Statement Text)) → Nat
  | none => 0
  | some body => Statement.tallyList body

end

end Tally

end LibraryDescriptor
