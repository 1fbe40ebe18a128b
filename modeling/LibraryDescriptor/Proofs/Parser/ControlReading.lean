import LibraryDescriptor.Proofs.Parser.Ensures
import LibraryDescriptor.Proofs.Parser.Reading
import LibraryDescriptor.Proofs.Syntax.ControlTree

/-!
# Reading control statements

The row of a control statement of the grammar is read as this statement.

* `Parser.Leaves` — a parser succeeds with a value and stops in front of a list of lexemes. There is
  one rule for each primitive.
* `Grammar.expression_named` — a name in front of a token that ends it.
* `Statement.IsControl.isRead` — a statement in front of a row that does not take its last `if`.
* `Grammar.module_control` — a statement alone.
-/

namespace LibraryDescriptor

namespace Parser

variable {α β : Type}

def Leaves (p : Parser α) (s : Tokens) (a : α) (rest : List Lexeme) : Prop :=
  ∃ s', p s = .ok (a, s') ∧ s'.lexemes = rest

namespace Leaves

variable {p : Parser α} {f : α → Parser β} {s s' : Tokens} {a : α} {b : β} {x : Lexeme}
  {mid rest : List Lexeme}

theorem mk (read : p s = .ok (a, s')) (spelled : s'.lexemes = rest) : Leaves p s a rest :=
  ⟨s', read, spelled⟩

theorem pure (spelled : s.lexemes = rest) : Leaves (pure a) s a rest := ⟨s, rfl, spelled⟩

theorem bind (first : Leaves p s a mid)
    (next : ∀ s', s'.lexemes = mid → Leaves (f a) s' b rest) : Leaves (p >>= f) s b rest := by
  obtain ⟨s', read, spelled⟩ := first
  obtain ⟨s'', later, left⟩ := next s' spelled
  exact ⟨s'', by rw [bind_ok read, later], left⟩

theorem current (spelled : s.lexemes = x :: rest) : Leaves current? s (some x) (x :: rest) :=
  ⟨s, by rw [current?_run, Tokens.current?_of_lexemes spelled], spelled⟩

theorem advance (spelled : s.lexemes = x :: rest) : Leaves advance s () rest :=
  ⟨_, advance_run, Tokens.advance_of_lexemes spelled⟩

theorem isNext (spelled : s.lexemes = rest) :
    Leaves (Parser.isNext x) s (rest.head? == some x) rest := by
  refine ⟨s, ?_, spelled⟩
  rw [← spelled, ← s.current?_eq]
  rfl

theorem atEnd (spelled : s.lexemes = rest) : Leaves Parser.atEnd s rest.isEmpty rest := by
  refine ⟨s, ?_, spelled⟩
  change Except.ok (s.current?.isNone, s) = _
  rw [s.current?_eq, spelled]
  cases rest <;> rfl

section Accept

variable {mark : Punctuator} {word : Keyword} {name : Text}

theorem accept_same (spelled : s.lexemes = .punctuator mark :: rest) :
    Leaves (accept mark) s true rest :=
  ⟨_, Parser.accept_same (Tokens.current?_of_lexemes spelled), Tokens.advance_of_lexemes spelled⟩

theorem accept_other (spelled : s.lexemes = rest) (other : rest.head? ≠ some (.punctuator mark)) :
    Leaves (accept mark) s false rest :=
  ⟨s, Parser.accept_other (by rwa [s.current?_eq, spelled]), spelled⟩

theorem expect (spelled : s.lexemes = .punctuator mark :: rest) : Leaves (expect mark) s () rest :=
  ⟨_, expect_same (Tokens.current?_of_lexemes spelled), Tokens.advance_of_lexemes spelled⟩

theorem acceptWord_same (spelled : s.lexemes = .keyword word :: rest) :
    Leaves (acceptWord word) s true rest := by
  refine (isNext spelled).bind fun s' spelled' => ?_
  rw [List.head?_cons, beq_self_eq_true, if_pos rfl]
  exact (advance spelled').bind fun _ => pure

theorem acceptWord_other (spelled : s.lexemes = rest) (other : rest.head? ≠ some (.keyword word)) :
    Leaves (acceptWord word) s false rest := by
  refine (isNext spelled).bind fun s' spelled' => ?_
  rw [beq_false_of_ne other]
  exact pure spelled'

theorem expectWord (spelled : s.lexemes = .keyword word :: rest) :
    Leaves (expectWord word) s () rest :=
  ⟨_, expectWord_same (Tokens.current?_of_lexemes spelled), Tokens.advance_of_lexemes spelled⟩

theorem expectContextual (spelled : s.lexemes = .identifier name :: rest) :
    Leaves (expectContextual name) s () rest := by
  have taken : Leaves (acceptContextual name) s true rest := by
    refine (isNext spelled).bind fun s' spelled' => ?_
    rw [List.head?_cons, beq_self_eq_true, if_pos rfl]
    exact (advance spelled').bind fun _ => pure
  exact taken.bind fun _ => pure

end Accept

end Leaves

end Parser

namespace Grammar

open LibraryDescriptor.Parser

variable {d : Nat} {allowIn : Bool} {s : Tokens} {x : Lexeme} {rest : List Lexeme}
  {value : Expression Text}

/-! ## Names -/

/-- Whether a token behind an operand is no part of the expression. -/
def endsOperand (allowIn : Bool) (x : Lexeme) : Bool :=
  x.hold == 0 && x != .punctuator .arrow || x == .keyword .in && !allowIn

theorem arrowAhead_name {name : Text} (spelled : s.lexemes = .identifier name :: x :: rest)
    (noArrow : x ≠ .punctuator .arrow) : arrowAhead s.ahead = false := by
  obtain ⟨first, behind, ahead, isName, spelled⟩ := List.map_eq_cons_iff.mp spelled
  obtain ⟨second, more, rfl, same, -⟩ := List.map_eq_cons_iff.mp spelled
  simp [ahead, arrowAhead, isName, startsWithArrow, same, noArrow]

theorem assignment_named (named : value.Named) (spelled : s.lexemes = value.row ++ x :: rest)
    (ends : endsOperand allowIn x = true) (deep : 6 ≤ d) :
    (assignment d allowIn).Leaves s value (x :: rest) := by
  obtain ⟨d, rfl⟩ := Nat.exists_eq_add_of_le' deep
  obtain ⟨-⟩ := named
  rename_i name
  have behind := Tokens.advance_of_lexemes spelled
  have next := Tokens.current?_of_lexemes behind
  have ends : x.hold = 0 ∧ x ≠ .punctuator .arrow ∨ x = .keyword .in ∧ allowIn = false := by
    simpa [endsOperand] using ends
  have operand : unary (d + 3) s = .ok (.identifier name, s.advance) := by
    refine unary_name (Tokens.current?_of_lexemes spelled) fun y next' => ?_
    obtain rfl : x = y := Option.some.inj (next.symm.trans next')
    rcases ends with ⟨loose, -⟩ | ⟨rfl, -⟩
    · omega
    · decide
  have chain : binary (d + 4) 1 allowIn s = .ok ((.identifier name, .none), s.advance) := by
    rw [binary_operand operand]
    refine climb_stop fun op found => ?_
    rw [next] at found
    rcases ends with ⟨loose, -⟩ | ⟨rfl, shut⟩
    · exact .inl (Lexeme.precedence_lt (by omega) found)
    · exact .inr ⟨(Option.some.inj found).symm, shut⟩
  have choice : conditional (d + 5) allowIn s = .ok (.identifier name, s.advance) := by
    refine conditional_test chain ?_
    rw [next]
    rcases ends with ⟨loose, -⟩ | ⟨rfl, -⟩
    · exact fun same => Lexeme.ne_question (by omega) (Option.some.inj same)
    · decide
  refine .mk (assignment_plain (arrowAhead_name spelled ?_) choice ?_) behind
  · rcases ends with ⟨-, noArrow⟩ | ⟨rfl, -⟩
    · exact noArrow
    · decide
  · rw [next]
    rcases ends with ⟨loose, -⟩ | ⟨rfl, -⟩
    · exact Lexeme.ofLexeme?_assignment (by omega)
    · rfl

theorem expression_named (named : value.Named) (spelled : s.lexemes = value.row ++ x :: rest)
    (ends : endsOperand allowIn x = true) (deep : 7 ≤ d) :
    (expression d allowIn).Leaves s value (x :: rest) := by
  obtain ⟨d, rfl⟩ := Nat.exists_eq_add_of_le' deep
  obtain ⟨s', read, behind⟩ := assignment_named (d := d + 6) named spelled ends (by omega)
  refine .mk (expression_one read ?_) behind
  rw [Tokens.current?_of_lexemes behind]
  rintro ⟨⟩
  cases allowIn <;> revert ends <;> decide

theorem parenthesized_named (named : value.Named)
    (spelled : s.lexemes = rowParens value.row ++ rest) (deep : 8 ≤ d) :
    (parenthesized d).Leaves s value rest := by
  obtain ⟨d, rfl⟩ := Nat.exists_eq_add_of_le' deep
  simp only [rowBetween, List.cons_append, List.append_assoc] at spelled
  rw [parenthesized]
  refine (Leaves.expect spelled).bind fun s₁ spelled₁ => ?_
  refine (expression_named named spelled₁ rfl (by omega)).bind fun s₂ spelled₂ => ?_
  exact (Leaves.expect spelled₂).bind fun _ => .pure

theorem optionalBefore_named {value? : Option (Expression Text)} {finish : Punctuator}
    (named : ∀ e ∈ value?, e.Named)
    (spelled : s.lexemes = value?.elim [] Expression.row ++ .punctuator finish :: rest)
    (ends : endsOperand true (.punctuator finish) = true) (deep : 8 ≤ d) :
    (optionalBefore d finish).Leaves s value? (.punctuator finish :: rest) := by
  obtain ⟨d, rfl⟩ := Nat.exists_eq_add_of_le' deep
  rw [optionalBefore]
  refine (Leaves.isNext spelled).bind fun s₁ spelled₁ => ?_
  match value? with
  | none =>
    rw [Option.elim_none, List.nil_append, List.head?_cons, beq_self_eq_true, if_pos rfl]
    exact .pure spelled₁
  | some value =>
    have named := named value rfl
    have other : ((value.row ++ .punctuator finish :: rest).head? == some (.punctuator finish)) =
        false := by
      obtain ⟨-⟩ := named
      rfl
    rw [Option.elim_some, other, if_neg Bool.false_ne_true]
    exact (expression_named named spelled₁ ends (by omega)).bind fun _ => .pure

/-! ## Heads of loops -/

section Heads

variable {mid : List Lexeme} {head : LoopHead Text} {result : Statement Text}

/-- A loop over keys or items goes on at the word behind its target. -/
theorem forStatement_each (named : head.Named) (word : x = .keyword .in ∨ x = .identifier "of")
    (spelled : s.lexemes =
      .keyword .for :: .punctuator .parenOpen :: (head.row ++ x :: mid))
    (deep : 7 ≤ d)
    (later : ∀ s', s'.lexemes = x :: mid → (forEach d head).Leaves s' result rest) :
    (forStatement (d + 1)).Leaves s result rest := by
  obtain ⟨⟨isName⟩⟩ := named
  rw [forStatement]
  refine (Leaves.expectWord spelled).bind fun s₁ spelled₁ => ?_
  refine (Leaves.expect spelled₁).bind fun s₂ spelled₂ => ?_
  refine (Leaves.current spelled₂).bind fun s₃ spelled₃ => ?_
  refine (Leaves.isNext spelled₃).bind fun s₄ spelled₄ => ?_
  have ends : endsOperand false x = true := by
    rcases word with rfl | rfl <;> decide
  refine (expression_named (.mk isName) spelled₄ ends deep).bind fun s₅ spelled₅ => ?_
  refine (Leaves.isNext spelled₅).bind fun s₆ spelled₆ => ?_
  refine (Leaves.isNext spelled₆).bind fun s₇ spelled₇ => ?_
  have found : ((x :: mid).head? == some (.keyword .in) ||
      (x :: mid).head? == some (.identifier "of")) = true := by
    simpa using word
  rw [found]
  exact later s₇ spelled₇

theorem forStatement_counting {init : Option (LoopHead Text)} (named : ∀ head ∈ init, head.Named)
    (spelled : s.lexemes = .keyword .for :: .punctuator .parenOpen ::
      (init.elim [] LoopHead.row ++ .punctuator .semicolon :: mid))
    (deep : 7 ≤ d)
    (later : ∀ s', s'.lexemes = .punctuator .semicolon :: mid →
      (forRest d init).Leaves s' result rest) :
    (forStatement (d + 1)).Leaves s result rest := by
  rw [forStatement]
  refine (Leaves.expectWord spelled).bind fun s₁ spelled₁ => ?_
  refine (Leaves.expect spelled₁).bind fun s₂ spelled₂ => ?_
  match init with
  | none =>
    refine (Leaves.current spelled₂).bind fun s₃ spelled₃ => ?_
    exact (Leaves.isNext spelled₃).bind later
  | some head =>
    obtain ⟨⟨isName⟩⟩ := named head rfl
    refine (Leaves.current spelled₂).bind fun s₃ spelled₃ => ?_
    refine (Leaves.isNext spelled₃).bind fun s₄ spelled₄ => ?_
    refine (expression_named (.mk isName) spelled₄ rfl deep).bind fun s₅ spelled₅ => ?_
    refine (Leaves.isNext spelled₅).bind fun s₆ spelled₆ => ?_
    exact (Leaves.isNext spelled₆).bind later

end Heads

end Grammar

/-! ## Statements -/

open LibraryDescriptor.Parser LibraryDescriptor.Grammar

/-- The row of a statement is read as the statement, in front of tokens that do not go on with it.
Sixteen calls for each token are enough. -/
def Statement.IsRead (t : Statement Text) : Prop :=
  ∀ ⦃d : Nat⦄ ⦃s : Tokens⦄ ⦃rest : List Lexeme⦄, s.lexemes = t.row ++ rest →
    (t.endsOpen = true → rest.head? ≠ some (.keyword .else)) → 16 * t.row.length ≤ d →
      (statement d).Leaves s t rest

namespace Statement.IsRead

variable {test left right : Expression Text} {body consequent alternate : Statement Text}

theorem empty : (Statement.empty : Statement Text).IsRead := by
  intro d s rest spelled _ deep
  simp only [Statement.row, List.length_singleton] at deep
  obtain ⟨d, rfl⟩ := Nat.exists_eq_add_of_le' (show 1 ≤ d by omega)
  rw [statement]
  exact (Leaves.current spelled).bind fun _ spelled₁ =>
    (Leaves.advance spelled₁).bind fun _ => .pure

theorem expression (named : test.Named) : (Statement.expression test).IsRead := by
  intro d s rest spelled _ deep
  obtain ⟨isName⟩ := named
  simp only [Statement.row, Expression.row, List.length_append, List.length_singleton] at deep
  obtain ⟨d, rfl⟩ := Nat.exists_eq_add_of_le' (show 2 ≤ d by omega)
  rw [statement]
  refine (Leaves.current spelled).bind fun s₁ spelled₁ => ?_
  obtain ⟨s₂, value, spelled₂⟩ :=
    expression_named (d := d) (x := .punctuator .semicolon) (.mk isName) spelled₁ rfl (by omega)
  exact .mk (expressionStatement_semicolon value (Tokens.current?_of_lexemes spelled₂))
    (Tokens.advance_of_lexemes spelled₂)

/-! ### Conditions -/

theorem ifThen (named : test.Named) (inner : consequent.IsRead) :
    (Statement.if test consequent none).IsRead := by
  intro d s rest spelled stop deep
  simp only [Statement.row, List.cons_append, List.append_assoc, List.length_cons,
    List.length_append] at spelled deep
  obtain ⟨d, rfl⟩ := Nat.exists_eq_add_of_le' (show 2 ≤ d by omega)
  rw [statement]
  refine (Leaves.current spelled).bind fun s₁ spelled₁ => ?_
  simp only [ifStatement]
  refine (Leaves.expectWord spelled₁).bind fun s₂ spelled₂ => ?_
  refine (parenthesized_named named spelled₂ (by omega)).bind fun s₃ spelled₃ => ?_
  refine (inner spelled₃ (fun _ => stop rfl) (by omega)).bind fun s₄ spelled₄ => ?_
  refine (Leaves.acceptWord_other spelled₄ (stop rfl)).bind fun s₅ spelled₅ => ?_
  exact .pure spelled₅

/-- A consequent that is closed leaves the `else` behind it. -/
theorem ifElse (named : test.Named) (first : consequent.IsRead)
    (closed : consequent.endsOpen = false) (second : alternate.IsRead) :
    (Statement.if test consequent (some alternate)).IsRead := by
  intro d s rest spelled stop deep
  simp only [Statement.row, takesElse_of_closed closed, Bool.false_eq_true, if_false,
    List.cons_append, List.append_assoc, List.length_cons, List.length_append] at spelled deep
  obtain ⟨d, rfl⟩ := Nat.exists_eq_add_of_le' (show 2 ≤ d by omega)
  rw [statement]
  refine (Leaves.current spelled).bind fun s₁ spelled₁ => ?_
  simp only [ifStatement]
  refine (Leaves.expectWord spelled₁).bind fun s₂ spelled₂ => ?_
  refine (parenthesized_named named spelled₂ (by omega)).bind fun s₃ spelled₃ => ?_
  refine (first spelled₃ (by simp [closed]) (by omega)).bind fun s₄ spelled₄ => ?_
  refine (Leaves.acceptWord_same spelled₄).bind fun s₅ spelled₅ => ?_
  exact (second spelled₅ stop (by omega)).bind fun _ => .pure

/-! ### Loops -/

theorem whileTest (named : test.Named) (inner : body.IsRead) :
    (Statement.while test body).IsRead := by
  intro d s rest spelled stop deep
  simp only [Statement.row, List.cons_append, List.append_assoc, List.length_cons,
    List.length_append] at spelled deep
  obtain ⟨d, rfl⟩ := Nat.exists_eq_add_of_le' (show 1 ≤ d by omega)
  rw [statement]
  refine (Leaves.current spelled).bind fun s₁ spelled₁ => ?_
  refine (Leaves.advance spelled₁).bind fun s₂ spelled₂ => ?_
  refine (parenthesized_named named spelled₂ (by omega)).bind fun s₃ spelled₃ => ?_
  exact (inner spelled₃ stop (by omega)).bind fun _ => .pure

theorem doWhile (inner : body.IsRead) (named : test.Named) :
    (Statement.doWhile body test).IsRead := by
  intro d s rest spelled _ deep
  simp only [Statement.row, List.cons_append, List.append_assoc, List.length_cons,
    List.length_append] at spelled deep
  obtain ⟨d, rfl⟩ := Nat.exists_eq_add_of_le' (show 2 ≤ d by omega)
  rw [statement]
  refine (Leaves.current spelled).bind fun s₁ spelled₁ => ?_
  simp only [doStatement]
  refine (Leaves.expectWord spelled₁).bind fun s₂ spelled₂ => ?_
  refine (inner spelled₂ (by simp) (by omega)).bind fun s₃ spelled₃ => ?_
  refine (Leaves.expectWord spelled₃).bind fun s₄ spelled₄ => ?_
  refine (parenthesized_named named spelled₄ (by omega)).bind fun s₅ spelled₅ => ?_
  exact (Leaves.accept_same spelled₅).bind fun _ => .pure

theorem counting {init : Option (LoopHead Text)} {test update : Option (Expression Text)}
    (initNamed : ∀ head ∈ init, head.Named) (testNamed : ∀ e ∈ test, e.Named)
    (updateNamed : ∀ e ∈ update, e.Named) (inner : body.IsRead) :
    (Statement.for init test update body).IsRead := by
  intro d s rest spelled stop deep
  simp only [Statement.row, rowBetween, List.cons_append, List.append_assoc, List.nil_append,
    List.length_cons, List.length_append] at spelled deep
  obtain ⟨d, rfl⟩ := Nat.exists_eq_add_of_le' (show 3 ≤ d by omega)
  rw [statement]
  refine (Leaves.current spelled).bind fun s₁ spelled₁ => ?_
  refine forStatement_counting initNamed spelled₁ (by omega) fun s₂ spelled₂ => ?_
  rw [forRest]
  refine (Leaves.expect spelled₂).bind fun s₃ spelled₃ => ?_
  refine (optionalBefore_named testNamed spelled₃ rfl (by omega)).bind fun s₄ spelled₄ => ?_
  refine (Leaves.expect spelled₄).bind fun s₅ spelled₅ => ?_
  refine (optionalBefore_named updateNamed spelled₅ rfl (by omega)).bind fun s₆ spelled₆ => ?_
  refine (Leaves.expect spelled₆).bind fun s₇ spelled₇ => ?_
  exact (inner spelled₇ stop (by omega)).bind fun _ => .pure

theorem forIn {left : LoopHead Text} (leftNamed : left.Named) (rightNamed : right.Named)
    (inner : body.IsRead) : (Statement.forIn left right body).IsRead := by
  intro d s rest spelled stop deep
  simp only [Statement.row, rowBetween, List.cons_append, List.append_assoc, List.nil_append,
    List.length_cons, List.length_append] at spelled deep
  obtain ⟨d, rfl⟩ := Nat.exists_eq_add_of_le' (show 3 ≤ d by omega)
  rw [statement]
  refine (Leaves.current spelled).bind fun s₁ spelled₁ => ?_
  refine forStatement_each leftNamed (.inl rfl) spelled₁ (by omega) fun s₂ spelled₂ => ?_
  rw [forEach]
  refine (Leaves.acceptWord_same spelled₂).bind fun s₃ spelled₃ => ?_
  refine (expression_named rightNamed spelled₃ rfl (by omega)).bind fun s₄ spelled₄ => ?_
  refine (Leaves.expect spelled₄).bind fun s₅ spelled₅ => ?_
  exact (inner spelled₅ stop (by omega)).bind fun _ => .pure

theorem forOf {left : LoopHead Text} (leftNamed : left.Named) (rightNamed : right.Named)
    (inner : body.IsRead) : (Statement.forOf left right body).IsRead := by
  intro d s rest spelled stop deep
  simp only [Statement.row, rowBetween, List.cons_append, List.append_assoc, List.nil_append,
    List.length_cons, List.length_append] at spelled deep
  obtain ⟨d, rfl⟩ := Nat.exists_eq_add_of_le' (show 3 ≤ d by omega)
  rw [statement]
  refine (Leaves.current spelled).bind fun s₁ spelled₁ => ?_
  refine forStatement_each leftNamed (.inr rfl) spelled₁ (by omega) fun s₂ spelled₂ => ?_
  rw [forEach]
  refine (Leaves.acceptWord_other spelled₂ (by simp)).bind fun s₃ spelled₃ => ?_
  refine (Leaves.expectContextual spelled₃).bind fun s₄ spelled₄ => ?_
  refine (assignment_named rightNamed spelled₄ rfl (by omega)).bind fun s₅ spelled₅ => ?_
  refine (Leaves.expect spelled₅).bind fun s₆ spelled₆ => ?_
  exact (inner spelled₆ stop (by omega)).bind fun _ => .pure

end Statement.IsRead

/-! ### Blocks -/

/-- The first token of a control statement ends no block and goes on with no `if`. -/
theorem Statement.IsControl.row_eq_cons {t : Statement Text} (tree : t.IsControl) :
    ∃ x more, t.row = x :: more ∧ x ∉ [.keyword .else, .punctuator .braceClose, .keyword .import,
      .keyword .export] := by
  cases tree with
  | expression named =>
    obtain ⟨-⟩ := named
    exact ⟨_, _, rfl, by simp⟩
  | _ => exact ⟨_, _, rfl, by decide⟩

/-- Statements up to a closing brace. -/
theorem Grammar.blockItems_control {d : Nat} {s : Tokens} {rest : List Lexeme} :
    ∀ {body : List (Statement Text)}, (∀ t ∈ body, t.IsControl ∧ t.IsRead) →
      s.lexemes = Statement.rowList body ++ .punctuator .braceClose :: rest →
      16 * (Statement.rowList body).length < d → (blockItems d).Leaves s body rest := by
  intro body each spelled deep
  induction body generalizing d s with
  | nil =>
    obtain ⟨d, rfl⟩ := Nat.exists_eq_add_of_le' (show 1 ≤ d by omega)
    rw [blockItems]
    exact (Leaves.accept_same spelled).bind fun _ => .pure
  | cons t body ih =>
    obtain ⟨⟨control, read⟩, later⟩ := List.forall_mem_cons.mp each
    obtain ⟨x, more, front, other⟩ := control.row_eq_cons
    simp only [List.mem_cons, not_or] at other
    simp only [Statement.rowList, List.append_assoc, List.length_append] at spelled deep
    have size : 1 ≤ t.row.length := by simp [front]
    obtain ⟨d, rfl⟩ := Nat.exists_eq_add_of_le' (show 1 ≤ d by omega)
    -- An `else` starts no statement, so an open item is not continued.
    have stop : (Statement.rowList body ++ .punctuator .braceClose :: rest).head? ≠
        some (.keyword .else) := by
      match body, later with
      | [], _ => simp [Statement.rowList]
      | u :: _, later =>
        obtain ⟨y, _, front, other⟩ := (later u List.mem_cons_self).1.row_eq_cons
        simp only [List.mem_cons, not_or] at other
        simpa [Statement.rowList, front] using other.1
    rw [blockItems]
    refine (Leaves.accept_other spelled (by simpa [front] using other.2.1)).bind
      fun s₁ spelled₁ => ?_
    refine (Leaves.atEnd spelled₁).bind fun s₂ spelled₂ => ?_
    rw [front]
    refine (read spelled₂ (fun _ => stop) (by omega)).bind fun s₃ spelled₃ => ?_
    exact (ih later spelled₃ (by omega)).bind fun _ => .pure

theorem Statement.IsRead.block {body : List (Statement Text)}
    (each : ∀ t ∈ body, t.IsControl ∧ t.IsRead) : (Statement.block body).IsRead := by
  intro d s rest spelled _ deep
  simp only [Statement.row, rowBetween, List.cons_append, List.append_assoc, List.nil_append,
    List.length_cons, List.length_append] at spelled deep
  obtain ⟨d, rfl⟩ := Nat.exists_eq_add_of_le' (show 2 ≤ d by omega)
  rw [statement]
  refine (Leaves.current spelled).bind fun s₁ spelled₁ => ?_
  simp only [Grammar.block]
  refine ((Leaves.expect spelled₁).bind fun s₂ spelled₂ => ?_).bind fun _ => .pure
  exact blockItems_control each spelled₂ (by omega)

/-! ## Whole statements -/

/-- A control statement of the grammar is what its row is read as. -/
theorem Statement.IsControl.isRead :
    ∀ {t : Statement Text}, t.IsControl → t.Grammatical → t.IsRead
  | _, .expression named, _ => .expression named
  | _, .block each, .block grammatical =>
    .block fun t member => ⟨each t member, (each t member).isRead (grammatical t member)⟩
  | _, .ifThen test consequent, .ifThen _ grammatical =>
    .ifThen test (consequent.isRead grammatical)
  | _, .ifElse test consequent alternate, .ifElse _ first closed second =>
    .ifElse test (consequent.isRead first) closed (alternate.isRead second)
  | _, .for init test update body, .for _ _ _ grammatical =>
    .counting init test update (body.isRead grammatical)
  | _, .forIn left right body, .forIn _ _ grammatical => .forIn left right (body.isRead grammatical)
  | _, .forOf left right body, .forOf _ _ grammatical => .forOf left right (body.isRead grammatical)
  | _, .while test body, .while _ grammatical => .whileTest test (body.isRead grammatical)
  | _, .doWhile body test, .doWhile grammatical _ => .doWhile (body.isRead grammatical) test
  | _, .empty, _ => .empty

/-- A module that holds the row of a control statement holds this statement. -/
theorem Grammar.module_control {t : Statement Text} {s : Tokens} (tree : t.IsControl)
    (grammatical : t.Grammatical) (spelled : s.lexemes = t.row) : module s = .ok ⟨[t]⟩ := by
  obtain ⟨x, more, front, other⟩ := tree.row_eq_cons
  simp only [List.mem_cons, not_or] at other
  have size : s.ahead.length = t.row.length := by rw [← spelled, Tokens.lexemes, List.length_map]
  have next : s.current? = some x := Tokens.current?_of_lexemes (spelled.trans front)
  obtain ⟨s', read, finished⟩ : (statement (16 * t.row.length + 14 + 1)).Leaves s t [] :=
    tree.isRead grammatical (by rw [spelled, List.append_nil]) (fun _ => by simp) (by omega)
  have item : moduleItem (16 * t.row.length + 14 + 1) s = .ok (t, s') := by
    rw [moduleItem, bind_ok current?_run, next]
    cases x with
    | keyword k =>
      cases k with
      | «import» | «export» => simp at other
      | _ => exact read
    | _ => exact read
  have items : moduleItems (depthBound s) s = .ok ([t], s') := by
    rw [depthBound, size]
    exact moduleItems_one (by rw [next]; rfl) item (by rw [Tokens.current?_eq, finished]; rfl)
  rw [module, StateT.run, items]
  rfl

end LibraryDescriptor
