import LibraryDescriptor.Proofs.Syntax.Grammatical

/-!
# Operator trees

The expressions that are built from names, literals, `this`, arrays and operators alone, in any
nesting. Whether the parser has made such a tree or not, its parts are what the grammar allows.

* `Expression.OperatorTree`.
* `OperatorTree.startsAmbiguously` — none of them starts like a declaration or a block.
-/

namespace LibraryDescriptor

inductive Expression.OperatorTree : Expression Text → Prop where
  | identifier : name.IsName → Expression.OperatorTree (.identifier name)
  | number : Numeral.IsSpelling raw → Numeral.value? raw = some value →
      Expression.OperatorTree (.literal (.number value) (some raw))
  | string : Expression.OperatorTree (.literal (.string value) none)
  | boolean : Expression.OperatorTree (.literal (.boolean value) none)
  | null : Expression.OperatorTree (.literal .null none)
  | this : Expression.OperatorTree .this
  | array : (∀ e, some e ∈ elements → e.OperatorTree) → Expression.OperatorTree (.array elements)
  | unary : UnaryOperator.ofLexeme? op.lexeme = some op → argument.OperatorTree →
      Expression.OperatorTree (.unary op argument)
  | update : UpdateOperator.ofLexeme? op.lexeme = some op → Grammar.isTarget argument = true →
      argument.OperatorTree → Expression.OperatorTree (.update op inFront argument)
  | binary : BinaryOperator.ofLexeme? op.lexeme = some op → op.isLogical = false →
      left.OperatorTree → right.OperatorTree → Expression.OperatorTree (.binary op left right)
  | logical : BinaryOperator.ofLexeme? op.lexeme = some op → op.isLogical = true →
      left.OperatorTree → right.OperatorTree → Expression.OperatorTree (.logical op left right)
  | assignment : AssignmentOperator.ofLexeme? op.lexeme = some op → Grammar.isTarget left = true →
      left.OperatorTree → right.OperatorTree → Expression.OperatorTree (.assignment op left right)
  | conditional : test.OperatorTree → consequent.OperatorTree → alternate.OperatorTree →
      Expression.OperatorTree (.conditional test consequent alternate)
  | call : callee.OperatorTree → (∀ e ∈ arguments, e.OperatorTree) →
      Expression.OperatorTree (.call callee arguments)
  | new : callee.OperatorTree → (∀ e ∈ arguments, e.OperatorTree) →
      Expression.OperatorTree (.new callee arguments)
  -- The name of a member may be a reserved word.
  | dotted : owner.OperatorTree → Text.isWord name = true →
      Expression.OperatorTree (.member owner (.identifier name) false)
  | computed : owner.OperatorTree → property.OperatorTree →
      Expression.OperatorTree (.member owner property true)
  | sequence : 2 ≤ expressions.length → (∀ e ∈ expressions, e.OperatorTree) →
      Expression.OperatorTree (.sequence expressions)

namespace Expression.OperatorTree

theorem grammatical {e : Expression Text} (tree : e.OperatorTree) : e.Grammatical := by
  induction tree with
  | identifier isName => exact .identifier isName
  | number spelling denotes => exact .number spelling denotes
  | string => exact .string
  | boolean => exact .boolean
  | null => exact .null
  | this => exact .this
  | array _ each => exact .array each
  | unary known _ argument => exact .unary known argument
  | update known target _ argument => exact .update known target argument
  | binary known plain _ _ left right => exact .binary known plain left right
  | logical known isLogical _ _ left right => exact .logical known isLogical left right
  | assignment known target _ _ left right => exact .assignment known target left right
  | conditional _ _ _ test consequent alternate => exact .conditional test consequent alternate
  | call _ _ callee each => exact .call callee each
  | new _ _ callee each => exact .new callee each
  | dotted _ word object => exact .dotted object word
  | computed _ _ object property => exact .computed object property
  | sequence long _ each => exact .sequence long each

theorem startsAmbiguously {e : Expression Text} (tree : e.OperatorTree) :
    LibraryDescriptor.startsAmbiguously e = .ok false := by
  induction tree with
  | @update _ _ inFront _ _ _ argument =>
    cases inFront with
    | true => rfl
    | false => exact argument
  | binary _ _ _ _ left | logical _ _ _ _ left | assignment _ _ _ _ left => exact left
  | conditional _ _ _ test => exact test
  | call _ _ callee => exact callee
  | dotted _ _ object | computed _ _ object => exact object
  | @sequence expressions long _ each =>
    match expressions with
    | [] => simp at long
    | first :: _ => exact each first List.mem_cons_self
  | _ => rfl

end Expression.OperatorTree

end LibraryDescriptor
