import LibraryDescriptor.Parser.Module

/-!
# Evaluating the grammar

What each function of the grammar makes of tokens whose first one is known, as an equation between
its result and those of the functions it calls. The rules cover operators, their operands and
statements that are expressions.
-/

namespace LibraryDescriptor

namespace Parser

variable {α β : Type} {s s' : Tokens}

theorem bind_ok {x : Parser α} {f : α → Parser β} {a : α} (found : x s = .ok (a, s')) :
    (x >>= f) s = f a s' := by
  change (x s >>= fun p => f p.1 p.2) = _
  rw [found]
  rfl

theorem bind_error {x : Parser α} {f : α → Parser β} {fault : SourceError}
    (failed : x s = .error fault) : (x >>= f) s = .error fault := by
  change (x s >>= fun p => f p.1 p.2) = _
  rw [failed]
  rfl

theorem get_run : (get : Parser Tokens) s = .ok (s, s) := rfl

theorem current?_run : current? s = .ok (s.current?, s) := rfl

theorem mark_run : mark s = .ok (s.mark, s) := rfl

theorem advance_run : advance s = .ok ((), s.advance) := rfl

theorem isMark_run {p : Punctuator} :
    isMark p s = .ok (s.current? == some (.punctuator p), s) := rfl

theorem isWord_run {k : Keyword} : isWord k s = .ok (s.current? == some (.keyword k), s) := rfl

theorem accept_same {p : Punctuator} (next : s.current? = some (.punctuator p)) :
    accept p s = .ok (true, s.advance) := by
  rw [accept, bind_ok isMark_run, next, beq_self_eq_true, if_pos rfl]
  rfl

theorem accept_other {p : Punctuator} (next : s.current? ≠ some (.punctuator p)) :
    accept p s = .ok (false, s) := by
  rw [accept, bind_ok isMark_run, beq_false_of_ne next]
  rfl

theorem expect_same {p : Punctuator} (next : s.current? = some (.punctuator p)) :
    expect p s = .ok ((), s.advance) := by
  rw [expect, bind_ok (accept_same next)]
  rfl

theorem expectWord_same {k : Keyword} (next : s.current? = some (.keyword k)) :
    expectWord k s = .ok ((), s.advance) := by
  have accepted : acceptWord k s = .ok (true, s.advance) := by
    rw [acceptWord, bind_ok isWord_run, next, beq_self_eq_true, if_pos rfl]
    rfl
  rw [expectWord, bind_ok accepted]
  rfl

end Parser

namespace Grammar

open LibraryDescriptor.Parser

variable {d least : Nat} {allowIn : Bool} {s s' s'' : Tokens} {e left right : Expression Text}
  {es : List (Expression Text)}

/-! ## Sequences and assignments -/

theorem expression_one (first : assignment d allowIn s = .ok (e, s'))
    (stop : s'.current? ≠ some (.punctuator .comma)) :
    expression (d + 1) allowIn s = .ok (e, s') := by
  rw [expression, bind_ok first, bind_ok isMark_run, beq_false_of_ne stop]
  rfl

theorem expression_sequence (first : assignment d allowIn s = .ok (e, s'))
    (comma : s'.current? = some (.punctuator .comma))
    (more : moreExpressions d allowIn s' = .ok (es, s'')) :
    expression (d + 1) allowIn s = .ok (.sequence (e :: es), s'') := by
  rw [expression, bind_ok first, bind_ok isMark_run, comma, beq_self_eq_true, if_pos rfl,
    bind_ok more]
  rfl

theorem moreExpressions_stop (stop : s.current? ≠ some (.punctuator .comma)) :
    moreExpressions (d + 1) allowIn s = .ok ([], s) := by
  rw [moreExpressions, bind_ok (accept_other stop)]
  rfl

theorem moreExpressions_comma (comma : s.current? = some (.punctuator .comma))
    (first : assignment d allowIn s.advance = .ok (e, s'))
    (more : moreExpressions d allowIn s' = .ok (es, s'')) :
    moreExpressions (d + 1) allowIn s = .ok (e :: es, s'') := by
  rw [moreExpressions, bind_ok (accept_same comma), if_pos rfl, bind_ok first, bind_ok more]
  rfl

theorem assignment_plain (noArrow : arrowAhead s.ahead = false)
    (value : conditional d allowIn s = .ok (e, s'))
    (stop : s'.current?.bind AssignmentOperator.ofLexeme? = none) :
    assignment (d + 1) allowIn s = .ok (e, s') := by
  rw [assignment, bind_ok get_run, noArrow, if_neg Bool.false_ne_true, bind_ok value,
    bind_ok current?_run, stop]
  rfl

theorem assignment_target {op : AssignmentOperator} (noArrow : arrowAhead s.ahead = false)
    (target : conditional d allowIn s = .ok (left, s')) (isTarget : isTarget left = true)
    (found : s'.current?.bind AssignmentOperator.ofLexeme? = some op)
    (value : assignment d allowIn s'.advance = .ok (right, s'')) :
    assignment (d + 1) allowIn s = .ok (.assignment op left right, s'') := by
  rw [assignment, bind_ok get_run, noArrow, if_neg Bool.false_ne_true, bind_ok target,
    bind_ok current?_run, found]
  simp only [isTarget, if_true]
  rw [bind_ok advance_run, bind_ok value]
  rfl

/-! ## Conditional expressions and chains -/

theorem conditional_test {logicals : Logicals}
    (test : binary d 1 allowIn s = .ok ((e, logicals), s'))
    (stop : s'.current? ≠ some (.punctuator .question)) :
    conditional (d + 1) allowIn s = .ok (e, s') := by
  rw [conditional, bind_ok test]
  simp only
  rw [bind_ok (accept_other stop)]
  rfl

theorem conditional_choice {logicals : Logicals} {mid : Tokens}
    (test : binary d 1 allowIn s = .ok ((e, logicals), s'))
    (question : s'.current? = some (.punctuator .question))
    (consequent : assignment d true s'.advance = .ok (left, mid))
    (colon : mid.current? = some (.punctuator .colon))
    (alternate : assignment d allowIn mid.advance = .ok (right, s'')) :
    conditional (d + 1) allowIn s = .ok (.conditional e left right, s'') := by
  rw [conditional, bind_ok test]
  simp only
  rw [bind_ok (accept_same question), if_pos rfl, bind_ok consequent, bind_ok (expect_same colon),
    bind_ok alternate]
  rfl

theorem binary_operand (operand : unary d s = .ok (e, s')) :
    binary (d + 1) least allowIn s =
      climb d least allowIn (s.current?.bind UnaryOperator.ofLexeme?).isSome e .none s' := by
  rw [binary, bind_ok current?_run, bind_ok operand]

theorem climb_stop {isUnary : Bool} {logicals : Logicals}
    (stop : ∀ op, s.current?.bind BinaryOperator.ofLexeme? = some op →
      op.precedence?.getD 0 < least ∨ op = .isIn ∧ allowIn = false) :
    climb (d + 1) least allowIn isUnary e logicals s = .ok ((e, logicals), s) := by
  rw [climb, bind_ok current?_run]
  cases found : s.current?.bind BinaryOperator.ofLexeme? with
  | none => rfl
  | some op =>
    have stopped : (decide (op.precedence?.getD 0 < least) || op == .isIn && !allowIn) = true := by
      simpa using stop op found
    simp only [stopped, if_true]
    rfl

section Operator

variable {isUnary : Bool} {logicals more : Logicals} {op : BinaryOperator}
  (found : s.current?.bind BinaryOperator.ofLexeme? = some op)
  (tight : least ≤ op.precedence?.getD 0) (allowed : op = .isIn → allowIn = true)
  (operand : op = .power → isUnary = false)

include found tight allowed operand

/-- An operator is taken, and after it its right operand is read. -/
theorem climb_taken :
    climb (d + 1) least allowIn isUnary left logicals s =
      (do
        let (right, more) ← binary d
          (if op == .power then op.precedence?.getD 0 else op.precedence?.getD 0 + 1) allowIn
        let logicals := logicals.combine more op
        if logicals.mixed then failAt s.mark .mixedNullish
        climb d least allowIn false
          (if op.isLogical then .logical op left right else .binary op left right)
          logicals : Parser (Expression Text × Logicals)) s.advance := by
  have bare : (op == .power && isUnary) = false := by
    by_cases power : op = .power
    · simp [operand power]
    · simp [power]
  have goes : (decide (op.precedence?.getD 0 < least) || op == .isIn && !allowIn) = false := by
    simpa [tight] using allowed
  rw [climb, bind_ok current?_run, found]
  simp only [goes, bare, Bool.false_eq_true, if_false]
  rw [bind_ok mark_run, bind_ok advance_run]

/-- An operator with its right operand. -/
theorem climb_operator
    (value : binary d (if op == .power then op.precedence?.getD 0 else op.precedence?.getD 0 + 1)
      allowIn s.advance = .ok ((right, more), s'))
    (unmixed : (logicals.combine more op).mixed = false) :
    climb (d + 1) least allowIn isUnary left logicals s =
      climb d least allowIn false
        (if op.isLogical then .logical op left right else .binary op left right)
        (logicals.combine more op) s' := by
  rw [climb_taken found tight allowed operand, bind_ok value]
  simp only [unmixed, Bool.false_eq_true, if_false]

theorem climb_mixed
    (value : binary d (if op == .power then op.precedence?.getD 0 else op.precedence?.getD 0 + 1)
      allowIn s.advance = .ok ((right, more), s'))
    (mixed : (logicals.combine more op).mixed = true) :
    climb (d + 1) least allowIn isUnary left logicals s =
      .error (.syntactic s.mark.position .mixedNullish) := by
  rw [climb_taken found tight allowed operand, bind_ok value]
  simp only [mixed, if_true]
  rfl

theorem climb_error {fault : SourceError}
    (failed : binary d (if op == .power then op.precedence?.getD 0 else op.precedence?.getD 0 + 1)
      allowIn s.advance = .error fault) :
    climb (d + 1) least allowIn isUnary left logicals s = .error fault := by
  rw [climb_taken found tight allowed operand, bind_error failed]

end Operator

/-! ## Operands -/

theorem unary_operator {op : UnaryOperator}
    (found : s.current?.bind UnaryOperator.ofLexeme? = some op)
    (value : unary d s.advance = .ok (e, s')) : unary (d + 1) s = .ok (.unary op e, s') := by
  rw [unary, bind_ok current?_run]
  simp only [found]
  rw [bind_ok advance_run, bind_ok value]
  rfl

theorem unary_updateBefore {op : UpdateOperator}
    (other : s.current?.bind UnaryOperator.ofLexeme? = none)
    (found : s.current?.bind UpdateOperator.ofLexeme? = some op)
    (value : unary d s.advance = .ok (e, s')) (target : isTarget e = true) :
    unary (d + 1) s = .ok (.update op true e, s') := by
  rw [unary, bind_ok current?_run]
  simp only [found, other]
  rw [bind_ok mark_run, bind_ok advance_run, bind_ok value]
  simp only [target, if_true]
  rfl

theorem unary_operand (noUnary : s.current?.bind UnaryOperator.ofLexeme? = none)
    (noUpdate : s.current?.bind UpdateOperator.ofLexeme? = none)
    (value : leftHandSide d s = .ok (e, s'))
    (stop : s'.current?.bind UpdateOperator.ofLexeme? = none) :
    unary (d + 1) s = .ok (e, s') := by
  rw [unary, bind_ok current?_run]
  simp only [noUnary, noUpdate]
  rw [bind_ok value, bind_ok mark_run, bind_ok current?_run, stop]
  rfl

theorem unary_updateBehind {op : UpdateOperator}
    (noUnary : s.current?.bind UnaryOperator.ofLexeme? = none)
    (noUpdate : s.current?.bind UpdateOperator.ofLexeme? = none)
    (value : leftHandSide d s = .ok (e, s'))
    (found : s'.current?.bind UpdateOperator.ofLexeme? = some op)
    (sameLine : s'.mark.afterBreak = false) (target : isTarget e = true) :
    unary (d + 1) s = .ok (.update op false e, s'.advance) := by
  rw [unary, bind_ok current?_run]
  simp only [noUnary, noUpdate]
  rw [bind_ok value, bind_ok mark_run, bind_ok current?_run, found]
  simp only [sameLine, Bool.false_eq_true, if_false]
  rw [bind_ok advance_run]
  simp only [target, if_true]
  rfl

def access (d : Nat) (allowCall : Bool) : Parser (Expression Text) := do
  let head ← if ← isWord .new then new d else primary d
  tail d allowCall head

theorem leftHandSide_succ : leftHandSide (d + 1) s = access d true s := by
  rw [leftHandSide, access]

theorem access_primary {allowCall : Bool} (other : s.current? ≠ some (.keyword .new))
    (head : primary d s = .ok (e, s')) : access d allowCall s = tail d allowCall e s' := by
  rw [access, bind_ok isWord_run, beq_false_of_ne other]
  simp only [Bool.false_eq_true, if_false]
  rw [bind_ok head]

theorem access_new {allowCall : Bool} (word : s.current? = some (.keyword .new))
    (head : new d s = .ok (e, s')) : access d allowCall s = tail d allowCall e s' := by
  rw [access, bind_ok isWord_run, word]
  simp only [beq_self_eq_true, if_true]
  rw [bind_ok head]

theorem new_arguments (word : s.current? = some (.keyword .new))
    (other : s.advance.current? ≠ some (.punctuator .dot))
    (callee : access d false s.advance = .ok (e, s'))
    (opens : s'.current? = some (.punctuator .parenOpen))
    (items : arguments d s'.advance = .ok (es, s'')) :
    new (d + 1) s = .ok (.new e es, s'') := by
  have rest : (access d false >>= fun callee => do
      if ← accept .parenOpen then return Expression.new callee (← arguments d)
      else return Expression.new callee []) s.advance = .ok (.new e es, s'') := by
    rw [bind_ok callee, bind_ok (accept_same opens), if_pos rfl, bind_ok items]
    rfl
  rw [new, bind_ok (expectWord_same word), bind_ok isMark_run, beq_false_of_ne other]
  rw [access, bind_assoc, bind_ok isWord_run] at rest
  simp only [Bool.false_eq_true, if_false]
  rw [bind_ok isWord_run]
  generalize (s.advance.current? == some (.keyword .new)) = isNew at rest ⊢
  cases isNew <;>
    simpa only [Bool.false_eq_true, if_false, if_true, bind_assoc] using rest

theorem tail_stop {allowCall : Bool}
    (stop : ∀ p ∈ [Punctuator.dot, .bracketOpen, .optional], s.current? ≠ some (.punctuator p))
    (noCall : allowCall = true → s.current? ≠ some (.punctuator .parenOpen)) :
    tail (d + 1) allowCall e s = .ok (e, s) := by
  have noCall : (allowCall && s.current? == some (.punctuator .parenOpen)) = false := by
    cases allowCall with
    | false => rfl
    | true => exact beq_false_of_ne (noCall rfl)
  rw [tail, bind_ok (accept_other (stop .dot (by simp))), if_neg Bool.false_ne_true,
    bind_ok (accept_other (stop .bracketOpen (by simp))), if_neg Bool.false_ne_true,
    bind_ok isMark_run, noCall, if_neg Bool.false_ne_true, bind_ok isMark_run,
    beq_false_of_ne (stop .optional (by simp))]
  rfl

theorem tail_dot {allowCall : Bool} {name : Text}
    (dot : s.current? = some (.punctuator .dot))
    (found : expectPropertyName s.advance = .ok (name, s')) :
    tail (d + 1) allowCall e s = tail d allowCall (.member e (.identifier name) false) s' := by
  rw [tail, bind_ok (accept_same dot), if_pos rfl, bind_ok found]

theorem tail_bracket {allowCall : Bool}
    (opens : s.current? = some (.punctuator .bracketOpen))
    (property : expression d true s.advance = .ok (right, s'))
    (closes : s'.current? = some (.punctuator .bracketClose)) :
    tail (d + 1) allowCall e s = tail d allowCall (.member e right true) s'.advance := by
  have noDot : s.current? ≠ some (.punctuator .dot) := by simp [opens]
  rw [tail, bind_ok (accept_other noDot), if_neg Bool.false_ne_true, bind_ok (accept_same opens),
    if_pos rfl, bind_ok property, bind_ok (expect_same closes)]

theorem tail_call (opens : s.current? = some (.punctuator .parenOpen))
    (items : arguments d s.advance = .ok (es, s')) :
    tail (d + 1) true e s = tail d true (.call e es) s' := by
  have noDot : s.current? ≠ some (.punctuator .dot) := by simp [opens]
  have noBracket : s.current? ≠ some (.punctuator .bracketOpen) := by simp [opens]
  rw [tail, bind_ok (accept_other noDot), if_neg Bool.false_ne_true,
    bind_ok (accept_other noBracket),
    if_neg Bool.false_ne_true, bind_ok isMark_run, opens, beq_self_eq_true, Bool.and_self,
    if_pos rfl, bind_ok advance_run, bind_ok items]

/-! ## Lists -/

/-- What stands behind an item of a list: the mark that closes the list, which stays, or a comma,
which is taken. -/
inductive Passes (close : Punctuator) (s : Tokens) : Tokens → Prop where
  | close : s.current? = some (.punctuator close) → Passes close s s
  | comma : s.current? = some (.punctuator .comma) → Passes close s s.advance

theorem arguments_nil (closes : s.current? = some (.punctuator .parenClose)) :
    arguments (d + 1) s = .ok ([], s.advance) := by
  rw [arguments, bind_ok (accept_same closes)]
  rfl

theorem arguments_item {mid : Tokens} (noClose : s.current? ≠ some (.punctuator .parenClose))
    (noEllipsis : s.current? ≠ some (.punctuator .ellipsis))
    (item : assignment d true s = .ok (e, s')) (passes : Passes .parenClose s' mid)
    (more : arguments d mid = .ok (es, s'')) :
    arguments (d + 1) s = .ok (e :: es, s'') := by
  rw [arguments, bind_ok (accept_other noClose)]
  simp only [Bool.false_eq_true, if_false]
  rw [bind_ok isMark_run, beq_false_of_ne noEllipsis]
  simp only [Bool.false_eq_true, if_false]
  rw [bind_ok item, bind_ok isMark_run]
  cases passes with
  | close closes =>
    simp only [closes, beq_self_eq_true, if_true]
    rw [bind_ok more]
    rfl
  | comma next =>
    have noClose : s'.current? ≠ some (.punctuator .parenClose) := by simp [next]
    simp only [beq_false_of_ne noClose, Bool.false_eq_true, if_false]
    rw [bind_ok (expect_same next), bind_ok more]
    rfl

section Elements

variable {elems : List (Option (Expression Text))}

theorem elements_nil (closes : s.current? = some (.punctuator .bracketClose)) :
    elements (d + 1) s = .ok ([], s.advance) := by
  rw [elements, bind_ok (accept_same closes)]
  rfl

theorem elements_hole (comma : s.current? = some (.punctuator .comma))
    (more : elements d s.advance = .ok (elems, s')) :
    elements (d + 1) s = .ok (none :: elems, s') := by
  have noClose : s.current? ≠ some (.punctuator .bracketClose) := by simp [comma]
  rw [elements, bind_ok (accept_other noClose)]
  simp only [Bool.false_eq_true, if_false]
  rw [bind_ok (accept_same comma)]
  simp only [if_true]
  rw [bind_ok more]
  rfl

theorem elements_item {mid : Tokens}
    (noClose : s.current? ≠ some (.punctuator .bracketClose))
    (noComma : s.current? ≠ some (.punctuator .comma))
    (noEllipsis : s.current? ≠ some (.punctuator .ellipsis))
    (item : assignment d true s = .ok (e, s')) (passes : Passes .bracketClose s' mid)
    (more : elements d mid = .ok (elems, s'')) :
    elements (d + 1) s = .ok (some e :: elems, s'') := by
  rw [elements, bind_ok (accept_other noClose)]
  simp only [Bool.false_eq_true, if_false]
  rw [bind_ok (accept_other noComma)]
  simp only [Bool.false_eq_true, if_false]
  rw [bind_ok isMark_run, beq_false_of_ne noEllipsis]
  simp only [Bool.false_eq_true, if_false]
  rw [bind_ok item, bind_ok isMark_run]
  cases passes with
  | close closes =>
    simp only [closes, beq_self_eq_true, if_true]
    rw [bind_ok more]
    rfl
  | comma next =>
    have noClose : s'.current? ≠ some (.punctuator .bracketClose) := by simp [next]
    simp only [beq_false_of_ne noClose, Bool.false_eq_true, if_false]
    rw [bind_ok (expect_same next), bind_ok more]
    rfl

end Elements

/-! ## Primary expressions -/

/-- The expression that a single token is. -/
inductive Atom : Lexeme → Expression Text → Prop where
  | identifier : Atom (.identifier name) (.identifier name)
  | number : Numeral.value? raw = some value →
      Atom (.number raw) (.literal (.number value) (some raw))
  | string : Atom (.string value) (.literal (.string value) none)
  | true : Atom (.keyword .true) (.literal (.boolean true) none)
  | false : Atom (.keyword .false) (.literal (.boolean false) none)
  | null : Atom (.keyword .null) (.literal .null none)
  | this : Atom (.keyword .this) .this

theorem primary_atom {x : Lexeme} (next : s.current? = some x) (atom : Atom x e) :
    primary (d + 1) s = .ok (e, s.advance) := by
  rw [primary, bind_ok current?_run, next]
  cases atom with
  | @number raw value denotes =>
    have number : numberOf raw s.advance = .ok (value, s.advance) := by
      rw [numberOf, denotes]
      rfl
    simp only
    rw [bind_ok advance_run, bind_ok number]
    rfl
  | _ => rfl

theorem primary_parens (opens : s.current? = some (.punctuator .parenOpen))
    (inner : expression d true s.advance = .ok (e, s'))
    (closes : s'.current? = some (.punctuator .parenClose)) :
    primary (d + 2) s = .ok (e, s'.advance) := by
  rw [primary, bind_ok current?_run, opens]
  simp only
  rw [parenthesized, bind_ok (expect_same opens), bind_ok inner, bind_ok (expect_same closes)]
  rfl

theorem primary_array {elems : List (Option (Expression Text))}
    (opens : s.current? = some (.punctuator .bracketOpen))
    (items : elements d s.advance = .ok (elems, s')) :
    primary (d + 1) s = .ok (.array elems, s') := by
  rw [primary, bind_ok current?_run, opens]
  simp only
  rw [bind_ok advance_run, bind_ok items]
  rfl

/-! ## Statements -/

def startsStatement : Lexeme → Bool
  | .identifier _ | .number _ | .string _ => true
  | .keyword k => k ∈ [.true, .false, .null, .this, .new, .typeof, .void, .delete]
  | .punctuator mark => mark ∉ [.braceOpen, .semicolon]

theorem expressionStatement_semicolon (value : expression d true s = .ok (e, s'))
    (semicolon : s'.current? = some (.punctuator .semicolon)) :
    expressionStatement (d + 1) s = .ok (.expression e, s'.advance) := by
  have noColon : s'.current? ≠ some (.punctuator .colon) := by simp [semicolon]
  have ends : endStatement s' = .ok ((), s'.advance) := by
    rw [endStatement, bind_ok (accept_same semicolon)]
    rfl
  rw [expressionStatement, bind_ok mark_run, bind_ok value]
  cases e with
  | identifier name =>
    simp only
    rw [bind_ok isMark_run, beq_false_of_ne noColon]
    simp only [Bool.false_eq_true, if_false]
    rw [bind_ok ends]
    rfl
  | _ =>
    simp only
    rw [bind_ok ends]
    rfl

theorem moduleItem_expression {x : Lexeme} (next : s.current? = some x)
    (starts : startsStatement x = true) : moduleItem (d + 1) s = expressionStatement d s := by
  rw [moduleItem, bind_ok current?_run, next]
  cases x with
  | keyword k =>
    cases k with
    | true | false | null | this | new | typeof | void | delete =>
      simp only
      rw [statement, bind_ok current?_run, next]
      rfl
    | _ => cases starts
  | punctuator mark =>
    cases mark with
    | braceOpen | semicolon => cases starts
    | _ =>
      simp only
      rw [statement, bind_ok current?_run, next]
  | _ =>
    simp only
    rw [statement, bind_ok current?_run, next]

theorem moduleItems_one {item : Statement Text} (next : s.current?.isNone = false)
    (first : moduleItem (d + 1) s = .ok (item, s')) (finished : s'.current? = none) :
    moduleItems (d + 2) s = .ok ([item], s') := by
  have done : moduleItems (d + 1) s' = .ok ([], s') := by
    rw [moduleItems, atEnd]
    simp only [bind_assoc]
    rw [bind_ok current?_run, finished]
    rfl
  have more : atEnd s = .ok (false, s) := by
    rw [atEnd, bind_ok current?_run, next]
    rfl
  rw [moduleItems, bind_ok more]
  simp only [Bool.false_eq_true, if_false]
  rw [bind_ok first, bind_ok done]
  rfl

end Grammar

end LibraryDescriptor
