import LibraryDescriptor.Proofs.Parser.Ensures
import LibraryDescriptor.Proofs.Parser.Hazards
import LibraryDescriptor.Proofs.Syntax.Grammatical
import LibraryDescriptor.Proofs.Syntax.Words

/-!
# What the grammar makes of tokens

A tree that comes out of the parser is grammatical and has the words of its tokens in their order,
and the hazards of its tokens are the arrow functions with blocks in it: no other brace stands
behind an arrow, and no first clause of a counting loop shows an `in`.

* `Lexeme.words` — the words among tokens.
* `Expression.Read`, `Statement.Read` — what is known of a tree and of the tokens that it was read
  from.
* `Grammar.Sound` — that holds for every function of the grammar at a depth of calls.
* `Grammar.Sound.expression_succ` and its siblings — one step for each function of expressions.
-/

namespace LibraryDescriptor

open LibraryDescriptor.Parser (Ensures)
open LibraryDescriptor.Word (texts)

/-! ## Operators -/

theorem UnaryOperator.lexeme_of_ofLexeme? {x : Lexeme} {op : UnaryOperator}
    (stands : ofLexeme? x = some op) : op.lexeme = x := by
  unfold ofLexeme? at stands
  split at stands <;> cases stands <;> rfl

theorem UpdateOperator.lexeme_of_ofLexeme? {x : Lexeme} {op : UpdateOperator}
    (stands : ofLexeme? x = some op) : op.lexeme = x := by
  unfold ofLexeme? at stands
  split at stands <;> cases stands <;> rfl

theorem AssignmentOperator.lexeme_of_ofLexeme? {x : Lexeme} {op : AssignmentOperator}
    (stands : ofLexeme? x = some op) : op.lexeme = x := by
  unfold ofLexeme? at stands
  split at stands
  · split at stands <;> cases stands <;> rfl
  · cases stands

theorem BinaryOperator.lexeme_of_ofLexeme? {x : Lexeme} {op : BinaryOperator}
    (stands : ofLexeme? x = some op) : op.lexeme = x := by
  unfold ofLexeme? at stands
  split at stands
  · cases stands; rfl
  · cases stands; rfl
  · split at stands <;> cases stands <;> rfl
  · cases stands

theorem UnaryOperator.isPlain {x : Lexeme} {op : UnaryOperator} (stands : ofLexeme? x = some op) :
    x.isPlain = true := by
  unfold ofLexeme? at stands
  split at stands <;> first | rfl | cases stands

theorem UpdateOperator.isPlain {x : Lexeme} {op : UpdateOperator} (stands : ofLexeme? x = some op) :
    x.isPlain = true := by
  unfold ofLexeme? at stands
  split at stands <;> first | rfl | cases stands

theorem AssignmentOperator.isPlain {x : Lexeme} {op : AssignmentOperator}
    (stands : ofLexeme? x = some op) : x.isPlain = true := by
  unfold ofLexeme? at stands
  split at stands
  · split at stands <;> first | rfl | cases stands
  · cases stands

theorem VariableKind.isPlain {x : Lexeme} {kind : VariableKind} (stands : ofLexeme? x = some kind) :
    x.isPlain = true := by
  unfold ofLexeme? at stands
  split at stands <;> first | rfl | cases stands

theorem BinaryOperator.isPlain {x : Lexeme} {op : BinaryOperator} (stands : ofLexeme? x = some op)
    (other : op ≠ .isIn) : x.isPlain = true := by
  unfold ofLexeme? at stands
  split at stands
  · rfl
  · cases stands; exact absurd rfl other
  · split at stands <;> first | rfl | cases stands
  · cases stands

/-! ## Words of tokens -/

namespace Lexeme

def word? : Lexeme → Option Text
  | .identifier name => some name
  | .keyword word => some word.spelling
  | .punctuator _ | .string _ | .number _ => none

@[simp] theorem word?_identifier (name : Text) : (identifier name).word? = some name := rfl
@[simp] theorem word?_keyword (word : Keyword) : (keyword word).word? = some word.spelling := rfl
@[simp] theorem word?_punctuator (mark : Punctuator) : (punctuator mark).word? = none := rfl
@[simp] theorem word?_string (value : Text) : (string value).word? = none := rfl
@[simp] theorem word?_number (raw : Text) : (number raw).word? = none := rfl

def words (xs : List Lexeme) : List Text := xs.filterMap word?

@[simp] theorem words_nil : words [] = [] := rfl

@[simp] theorem words_cons (x : Lexeme) (xs : List Lexeme) :
    words (x :: xs) = x.word?.toList ++ words xs := by
  cases x <;> rfl

end Lexeme

/-- Operators are reserved words or no words. -/
theorem texts_unary {x : Lexeme} {op : UnaryOperator}
    (stands : UnaryOperator.ofLexeme? x = some op) :
    texts id (Word.ofLexeme op.lexeme) = x.word?.toList := by
  rw [UnaryOperator.lexeme_of_ofLexeme? stands]
  unfold UnaryOperator.ofLexeme? at stands
  split at stands <;> first | rfl | cases stands

theorem texts_binary {x : Lexeme} {op : BinaryOperator}
    (stands : BinaryOperator.ofLexeme? x = some op) :
    texts id (Word.ofLexeme op.lexeme) = x.word?.toList := by
  rw [BinaryOperator.lexeme_of_ofLexeme? stands]
  unfold BinaryOperator.ofLexeme? at stands
  split at stands <;> first | rfl | cases stands

theorem word?_update {x : Lexeme} {op : UpdateOperator}
    (stands : UpdateOperator.ofLexeme? x = some op) : x.word? = none := by
  unfold UpdateOperator.ofLexeme? at stands
  split at stands <;> first | rfl | cases stands

theorem word?_assignment {x : Lexeme} {op : AssignmentOperator}
    (stands : AssignmentOperator.ofLexeme? x = some op) : x.word? = none := by
  unfold AssignmentOperator.ofLexeme? at stands
  split at stands <;> first | rfl | cases stands

theorem word?_variable {x : Lexeme} {kind : VariableKind}
    (stands : VariableKind.ofLexeme? x = some kind) : x.word? = some kind.keyword.spelling := by
  unfold VariableKind.ofLexeme? at stands
  split at stands <;> cases stands <;> rfl

/-- A name in a place where reserved words are names too is written as it is. -/
theorem word?_propertyName {x : Lexeme} {name : Text}
    (spelled : x = .identifier name ∧ name.IsName ∨
      ∃ word, x = .keyword word ∧ name = word.spelling) :
    x.word? = some name := by
  rcases spelled with ⟨rfl, -⟩ | ⟨word, rfl, rfl⟩ <;> rfl

@[simp] abbrev Spells (xs : List Lexeme) (ws : List (Word Text)) (rest : List Lexeme) : Prop :=
  Lexeme.words xs = texts id ws ++ Lexeme.words rest

/-- The words between two places of a text, with those of `first` in front, are `ws`. -/
@[simp] abbrev Extends (xs : List Lexeme) (first ws : List (Word Text)) (rest : List Lexeme) :
    Prop :=
  texts id first ++ Lexeme.words xs = texts id ws ++ Lexeme.words rest

/-- A closing bracket is no word. -/
theorem spells_close {mark : Punctuator} {xs rest : List Lexeme}
    (close : xs = .punctuator mark :: rest) : Spells xs [] rest := by
  simp [close]

/-! ## Trees with their tokens -/

/-- An expression that was read from the tokens between two places. -/
structure Expression.Read (allowIn : Bool) (xs rest : List Lexeme) (e : Expression Text) :
    Prop where
  grammatical : e.Grammatical
  part : Part allowIn xs rest (e.tally 1 0)
  spelled : Spells xs e.words rest

/-- An expression that was read from the tokens between two places behind its first operand. -/
structure Expression.Grown (allowIn : Bool) (e left : Expression Text) (xs rest : List Lexeme) :
    Prop where
  grammatical : e.Grammatical
  part : ∃ n, e.tally 1 0 = left.tally 1 0 + n ∧ Part allowIn xs rest n
  spelled : Extends xs left.words e.words rest

/-- An entry of an object that was read from the tokens between two places behind its key. No loop
starts at the key, so a word that is one is no hazard. -/
structure Property.Grown (key : Expression Text) (computed : Bool) (xs rest : List Lexeme)
    (p : Property Text) : Prop where
  grammatical : p.Grammatical
  span : ∃ n, p.tally 1 0 = (if computed then key.tally 1 0 else 0) + n ∧ Span xs rest n
  safe : ∀ word, isHazard (.keyword word) xs = false
  spelled : Extends xs key.words p.words rest

/-- A statement that was read from the tokens between two places. -/
structure Statement.Read (xs rest : List Lexeme) (s : Statement Text) : Prop where
  grammatical : s.Grammatical
  part : Span xs rest (s.tally 1 0)
  dangling : s.endsOpen = true → rest.head? ≠ some (.keyword .else)
  spelled : Spells xs s.words rest

/-- A loop that was read from the tokens between two places behind its target or first clause, which
weighs `first` and has the words `ws`. -/
structure Statement.LoopRead (first : Nat) (ws : List (Word Text)) (xs rest : List Lexeme)
    (s : Statement Text) : Prop where
  grammatical : s.Grammatical
  part : ∃ ys m n, Closes xs ys m ∧ Span ys rest n ∧ s.tally 1 0 = first + m + n
  dangling : s.endsOpen = true → rest.head? ≠ some (.keyword .else)
  closed : ∀ clause n, Flat clause xs n false → Clause.start.isOpen clause = false
  spelled : Extends xs (.keyword .for :: ws) s.words rest

/-- A module item that was read from the tokens between two places. -/
structure Statement.ItemRead (xs rest : List Lexeme) (s : Statement Text) : Prop where
  isItem : s.IsItem
  part : Span xs rest (s.tally 1 0)
  spelled : ∃ ws, s.Spelled id ws ∧ Spells xs ws rest

/-- A statement is no list of imports or exports, so it is written in one way. -/
theorem Statement.Grammatical.spelled {s : Statement Text} (grammatical : s.Grammatical) :
    s.Spelled id s.words := by
  cases grammatical <;> rfl

theorem Expression.Read.mono {allowIn : Bool} {xs rest : List Lexeme} {e : Expression Text}
    (read : e.Read false xs rest) : e.Read allowIn xs rest :=
  ⟨read.grammatical, read.part.flat.part, read.spelled⟩

theorem Expression.Grown.refl {allowIn : Bool} {xs : List Lexeme} {e : Expression Text}
    (grammatical : e.Grammatical) : e.Grown allowIn e xs xs :=
  ⟨grammatical, ⟨0, rfl, Flat.refl.part⟩, rfl⟩

theorem Expression.Read.grow {allowIn : Bool} {xs ys rest : List Lexeme} {left e : Expression Text}
    (read : left.Read allowIn xs ys) (grown : e.Grown allowIn left ys rest) :
    e.Read allowIn xs rest := by
  obtain ⟨n, weight, part⟩ := grown.part
  exact ⟨grown.grammatical, weight ▸ read.part.trans part, read.spelled.trans grown.spelled⟩

/-- An entry whose key is one token. -/
theorem Property.Grown.behind {key : Expression Text} {p : Property Text} {x : Lexeme}
    {xs ys rest : List Lexeme} (grown : p.Grown key false ys rest) (front : xs = x :: ys)
    (inert : x.isInert = true) (safe : isHazard x ys = false)
    (word : texts id key.words = x.word?.toList) :
    p.Grammatical ∧ Span xs rest (p.tally 1 0) ∧ Spells xs p.words rest := by
  obtain ⟨n, weight, span⟩ := grown.span
  rw [if_neg nofun, Nat.zero_add] at weight
  refine ⟨grown.grammatical, weight ▸ span.skip front inert safe, Eq.trans ?_ grown.spelled⟩
  simp [front, word]

namespace Parser

variable {α : Type}

def ReadsExpression (p : Parser (Expression Text)) (allowIn : Bool) : Prop :=
  ∀ s, p.Ensures s fun e s' => e.Read allowIn s.lexemes s'.lexemes

def ReadsStatement (p : Parser (Statement Text)) : Prop :=
  ∀ s, p.Ensures s fun st s' => st.Read s.lexemes s'.lexemes

/-- A parser of something that stands between brackets. -/
def ReadsSpan (p : Parser α) (good : α → Prop) (weight : α → Nat) (words : α → List (Word Text)) :
    Prop :=
  ∀ s, p.Ensures s fun a s' => good a ∧ Span s.lexemes s'.lexemes (weight a) ∧
    Spells s.lexemes (words a) s'.lexemes

/-- A parser of something up to the bracket that closes it. -/
def ReadsClosed (p : Parser α) (good : α → Prop) (weight : α → Nat)
    (words : α → List (Word Text)) : Prop :=
  ∀ s, p.Ensures s fun a s' => good a ∧ Closes s.lexemes s'.lexemes (weight a) ∧
    Spells s.lexemes (words a) s'.lexemes

end Parser

namespace Grammar

/-- What the functions of the grammar ensure at a depth of calls. -/
structure Sound (depth : Nat) : Prop where
  expression (allowIn : Bool) : (expression depth allowIn).ReadsExpression allowIn
  moreExpressions (allowIn : Bool) (s : Tokens) :
    (moreExpressions depth allowIn).Ensures s fun es s' =>
      (∀ e ∈ es, e.Grammatical) ∧
        Part allowIn s.lexemes s'.lexemes (Expression.tallyList 1 0 es) ∧
        (s.lexemes.head? = some (.punctuator .comma) → es ≠ []) ∧
        Spells s.lexemes (Expression.wordsList es) s'.lexemes
  assignment (allowIn : Bool) : (assignment depth allowIn).ReadsExpression allowIn
  arrow (allowIn : Bool) : (arrow depth allowIn).ReadsExpression allowIn
  conditional (allowIn : Bool) : (conditional depth allowIn).ReadsExpression allowIn
  binary (least : Nat) (allowIn : Bool) (s : Tokens) :
    (binary depth least allowIn).Ensures s fun r s' => r.1.Read allowIn s.lexemes s'.lexemes
  climb (least : Nat) (allowIn isUnary : Bool) (left : Expression Text) (logicals : Logicals)
    (grammatical : left.Grammatical) (s : Tokens) :
    (climb depth least allowIn isUnary left logicals).Ensures s fun r s' =>
      r.1.Grown allowIn left s.lexemes s'.lexemes
  unary : (unary depth).ReadsExpression false
  leftHandSide : (leftHandSide depth).ReadsExpression false
  new : (new depth).ReadsExpression false
  tail (allowCall : Bool) (head : Expression Text) (grammatical : head.Grammatical) (s : Tokens) :
    (tail depth allowCall head).Ensures s fun e s' => e.Grown false head s.lexemes s'.lexemes
  arguments : (arguments depth).ReadsClosed (∀ e ∈ ·, e.Grammatical) (Expression.tallyList 1 0)
    Expression.wordsList
  primary : (primary depth).ReadsExpression false
  parenthesized : (parenthesized depth).ReadsExpression false
  functionExpression : (functionExpression depth).ReadsExpression false
  elements : (elements depth).ReadsClosed (∀ e, some e ∈ · → e.Grammatical)
    (Expression.tallyElements 1 0) Expression.wordsElements
  properties : (properties depth).ReadsClosed (∀ p ∈ ·, p.Grammatical) (Property.tallyList 1 0)
    Property.wordsList
  property : (property depth).ReadsSpan Property.Grammatical (Property.tally 1 0) Property.words
  propertyValue (key : Expression Text) (computed : Bool) (shorthand : Option Text)
    (isKey : key.IsKey computed)
    (named : ∀ name ∈ shorthand, Text.IsName name ∧ key = .identifier name ∧ computed = false)
    (s : Tokens) :
    (propertyValue depth key computed shorthand).Ensures s fun p s' =>
      p.Grown key computed s.lexemes s'.lexemes
  block (s : Tokens) : (block depth).Ensures s fun body s' =>
    (∀ s ∈ body, s.Grammatical) ∧ Flat s.lexemes s'.lexemes (Statement.tallyList 1 0 body) false ∧
      Spells s.lexemes (Statement.wordsList body) s'.lexemes
  blockItems : (blockItems depth).ReadsClosed (∀ s ∈ ·, s.Grammatical) (Statement.tallyList 1 0)
    Statement.wordsList
  statement : (statement depth).ReadsStatement
  expressionStatement : (expressionStatement depth).ReadsStatement
  functionDeclaration :
    (functionDeclaration depth).ReadsSpan Declaration.Grammatical (Declaration.tally 1 0)
      Declaration.words
  variableStatement (kind : VariableKind) (s : Tokens)
    (found : s.lexemes.head? = some (.keyword kind.keyword)) :
    (variableStatement depth kind).Ensures s fun st s' => st.Read s.lexemes s'.lexemes
  variableDeclaration (kind : VariableKind) (s : Tokens)
    (found : s.lexemes.head? = some (.keyword kind.keyword)) :
    (variableDeclaration depth kind).Ensures s fun value s' =>
      value.Grammatical ∧ Span s.lexemes s'.lexemes (value.tally 1 0) ∧
        Spells s.lexemes value.words s'.lexemes
  declarators (allowIn : Bool) (s : Tokens) : (declarators depth allowIn).Ensures s fun ds s' =>
    ds ≠ [] ∧ (∀ d ∈ ds, d.Grammatical) ∧
      Part allowIn s.lexemes s'.lexemes (Declarator.tallyList 1 0 ds) ∧
      Spells s.lexemes (Declarator.wordsList ds) s'.lexemes
  ifStatement : (ifStatement depth).ReadsStatement
  forStatement : (forStatement depth).ReadsStatement
  forEach (left : LoopHead Text) (isTarget : left.IsTarget) (s : Tokens) :
    (forEach depth left).Ensures s fun st s' =>
      st.LoopRead (left.tally 1 0) left.words s.lexemes s'.lexemes
  forRest (init : Option (LoopHead Text)) (grammatical : ∀ head ∈ init, head.Grammatical)
    (s : Tokens) : (forRest depth init).Ensures s fun st s' =>
      st.LoopRead (LoopHead.tallyOption 1 0 init) (LoopHead.wordsOption init) s.lexemes s'.lexemes
  optionalBefore (finish : Punctuator) :
    (optionalBefore depth finish).ReadsSpan (∀ e ∈ ·, e.Grammatical) (Expression.tallyOption 1 0)
      Expression.wordsOption
  doStatement : (doStatement depth).ReadsStatement
  returnStatement : (returnStatement depth).ReadsStatement
  throwStatement : (throwStatement depth).ReadsStatement
  tryStatement : (tryStatement depth).ReadsStatement
  catchClause :
    (catchClause depth).ReadsSpan (∀ h ∈ ·, h.Grammatical) (CatchClause.tallyOption 1 0)
      CatchClause.wordsOption
  switchStatement : (switchStatement depth).ReadsStatement
  switchCases :
    (switchCases depth).ReadsClosed (∀ c ∈ ·, c.Grammatical) (SwitchCase.tallyList 1 0)
      SwitchCase.wordsList
  caseItems : (caseItems depth).ReadsSpan (∀ s ∈ ·, s.Grammatical) (Statement.tallyList 1 0)
    Statement.wordsList

/-! ## Expressions -/

/-- Parameters are names and commas up to the closing parenthesis. -/
theorem ensures_params (depth : Nat) (s : Tokens) : (params depth).Ensures s fun names s' =>
    (∀ n ∈ names, Text.IsName n) ∧ Flat s.lexemes (.punctuator .parenClose :: s'.lexemes) 0 false ∧
      Spells s.lexemes (names.map .name) s'.lexemes := by
  induction depth generalizing s with
  | zero => exact .throw
  | succ depth ih =>
    refine .accept (fun s₁ close => .pure ⟨nofun, close ▸ .refl, by simp [close]⟩) fun _ => ?_
    refine .isNext (fun _ => .fail_bind) fun _ => .refusePattern ?_
    refine .expectIdentifier fun name s₁ front isName => ?_
    refine .isNext (fun _ => .fail_bind) fun _ => ?_
    refine .isNext (fun _ => ?_) fun _ => .expect fun s₂ comma => ?_
    · refine (ih s₁).bind fun names s₂ ⟨each, flat, spelled⟩ => .pure ?_
      exact ⟨List.forall_mem_cons.mpr ⟨isName, each⟩, flat.skip front rfl,
        by simp [front, spelled]⟩
    · refine (ih s₂).bind fun names s₃ ⟨each, flat, spelled⟩ => .pure ?_
      exact ⟨List.forall_mem_cons.mpr ⟨isName, each⟩, (flat.skip comma rfl).skip front rfl,
        by simp [front, comma, spelled]⟩

section Step

variable {depth : Nat}

theorem Sound.expression_succ (ih : Sound depth) (allowIn : Bool) :
    (Grammar.expression (depth + 1) allowIn).ReadsExpression allowIn := by
  intro s
  refine (ih.assignment allowIn s).bind fun first s₁ read => ?_
  refine .isNext (fun comma => ?_) fun _ => .pure read
  refine (ih.moreExpressions allowIn s₁).bind fun items s₂ ⟨each, part, present, more⟩ => .pure ?_
  exact ⟨.sequence (Nat.succ_le_succ (List.length_pos_of_ne_nil (present comma)))
    (List.forall_mem_cons.mpr ⟨read.grammatical, each⟩), read.part.trans part,
    by simp [Expression.words, Expression.wordsList, read.spelled, more]⟩

theorem Sound.moreExpressions_succ (ih : Sound depth) (allowIn : Bool) (s : Tokens) :
    (Grammar.moreExpressions (depth + 1) allowIn).Ensures s fun es s' =>
      (∀ e ∈ es, e.Grammatical) ∧
        Part allowIn s.lexemes s'.lexemes (Expression.tallyList 1 0 es) ∧
        (s.lexemes.head? = some (.punctuator .comma) → es ≠ []) ∧
        Spells s.lexemes (Expression.wordsList es) s'.lexemes := by
  refine .accept (fun s₁ comma => ?_) fun absent => ?_
  · refine (ih.assignment allowIn s₁).bind fun next s₂ read => ?_
    refine (ih.moreExpressions allowIn s₂).bind fun items s₃ ⟨each, part, _, more⟩ => .pure ?_
    exact ⟨List.forall_mem_cons.mpr ⟨read.grammatical, each⟩, (read.part.trans part).skip comma rfl,
      fun _ => List.cons_ne_nil _ _, by simp [Expression.wordsList, comma, read.spelled, more]⟩
  · exact .pure ⟨nofun, Flat.refl.part, fun comma => absurd comma absent, rfl⟩

theorem Sound.assignment_succ (ih : Sound depth) (allowIn : Bool) :
    (Grammar.assignment (depth + 1) allowIn).ReadsExpression allowIn := by
  intro s
  refine .get (.ite (fun _ => ih.arrow allowIn s) fun _ => ?_)
  refine (ih.conditional allowIn s).bind fun left s₁ read => .current ?_
  rcases stands : s₁.lexemes.head?.bind AssignmentOperator.ofLexeme? with _ | op
  · exact .pure read
  obtain ⟨x, found, stands⟩ := Option.bind_eq_some_iff.mp stands
  refine .ite (fun target => ?_) fun _ => .fail_bind
  refine .advance found fun s₂ front _ => ?_
  refine (ih.assignment allowIn s₂).bind fun right s₃ readRight => .pure ?_
  have known := AssignmentOperator.lexeme_of_ofLexeme? stands ▸ stands
  exact ⟨.assignment known target read.grammatical readRight.grammatical,
    read.part.trans (readRight.part.skip front (AssignmentOperator.isPlain stands)),
    by simp [Expression.words, read.spelled, front, word?_assignment stands, readRight.spelled]⟩

theorem Sound.arrow_succ (ih : Sound depth) (allowIn : Bool) :
    (Grammar.arrow (depth + 1) allowIn).ReadsExpression allowIn := by
  intro s
  -- Either form of the parameters is passed over without a hazard.
  have body (names : List Text) (each : ∀ n ∈ names, Text.IsName n) (s₁ : Tokens)
      (flat : Flat s.lexemes s₁.lexemes 0 false)
      (spelled : Spells s.lexemes (names.map .name) s₁.lexemes) :
      Ensures (do
        Parser.expect .arrow
        if ← Parser.isMark .braceOpen then
          return Expression.arrowBlock names (← Grammar.block depth)
        else return .arrow names (← Grammar.assignment depth allowIn)) s₁
        fun e s' => e.Read allowIn s.lexemes s'.lexemes := by
    refine .expect fun s₂ front => ?_
    refine .isNext (fun brace => ?_) fun noBrace => ?_
    · refine (ih.block s₂).bind fun body s₃ ⟨grammatical, inner, more⟩ => .pure ?_
      have arrow := Flat.arrow front
      rw [isHazard_arrow_brace brace] at arrow
      have whole := flat.trans (arrow.trans inner)
      rw [Nat.zero_add] at whole
      exact ⟨.arrowBlock each grammatical, whole.part,
        by simp [Expression.words, spelled, front, more]⟩
    · refine (ih.assignment allowIn s₂).bind fun value s₃ read => .pure ?_
      have arrow := Flat.arrow front
      rw [isHazard_arrow noBrace] at arrow
      have whole := (flat.trans arrow).part.trans read.part
      rw [Bool.toNat_false, Nat.zero_add] at whole
      exact ⟨.arrow each read.grammatical, whole,
        by simp [Expression.words, spelled, front, read.spelled]⟩
  refine .accept (fun s₁ paren => ?_) fun _ => ?_
  · refine (ensures_params depth s₁).bind fun names s₂ ⟨each, flat, spelled⟩ => ?_
    have inside := flat.span.closes (Closes.close rfl rfl)
    exact body names each s₂ (inside.flat paren rfl) (by simpa [paren] using spelled)
  · refine .expectIdentifier fun name s₁ front isName => ?_
    exact body [name] (by simpa using isName) s₁ (Flat.refl.skip front rfl) (by simp [front])

theorem Sound.conditional_succ (ih : Sound depth) (allowIn : Bool) :
    (Grammar.conditional (depth + 1) allowIn).ReadsExpression allowIn := by
  intro s
  refine (ih.binary 1 allowIn s).bind fun ⟨test, _⟩ s₁ read => ?_
  refine .accept (fun s₂ question => ?_) fun _ => .pure read
  refine (ih.assignment true s₂).bind fun consequent s₃ readConsequent => .expect fun s₄ colon => ?_
  refine (ih.assignment allowIn s₄).bind fun alternate s₅ readAlternate => .pure ?_
  obtain ⟨_, inner, _⟩ := readConsequent.part
  have choice := inner.choice question colon
  exact ⟨.conditional read.grammatical readConsequent.grammatical readAlternate.grammatical,
    (read.part.trans choice.part).trans readAlternate.part, by
      simp [Expression.words, read.spelled, question, readConsequent.spelled, colon,
        readAlternate.spelled]⟩

theorem Sound.binary_succ (ih : Sound depth) (least : Nat) (allowIn : Bool) (s : Tokens) :
    (Grammar.binary (depth + 1) least allowIn).Ensures s fun r s' =>
      r.1.Read allowIn s.lexemes s'.lexemes := by
  refine .current ((ih.unary s).bind fun left s₁ read => ?_)
  exact (ih.climb _ _ _ _ _ read.grammatical s₁).mono fun _ _ grown => read.mono.grow grown

theorem Sound.climb_succ (ih : Sound depth) (least : Nat) (allowIn isUnary : Bool)
    (left : Expression Text) (logicals : Logicals) (grammatical : left.Grammatical) (s : Tokens) :
    (Grammar.climb (depth + 1) least allowIn isUnary left logicals).Ensures s fun r s' =>
      r.1.Grown allowIn left s.lexemes s'.lexemes := by
  refine .current ?_
  rcases stands : s.lexemes.head?.bind BinaryOperator.ofLexeme? with _ | op
  · exact .pure (.refl grammatical)
  obtain ⟨x, found, stands⟩ := Option.bind_eq_some_iff.mp stands
  refine .ite (fun _ => .pure (.refl grammatical)) fun continues => ?_
  refine .ite (fun _ => .fail_bind) fun _ => .mark (.advance found fun s₁ front _ => ?_)
  refine (ih.binary _ allowIn s₁).bind fun ⟨right, more⟩ s₂ read => ?_
  refine .ite (fun _ => .failAt_bind) fun _ => ?_
  -- The operator and its right operand, with either constructor.
  have known := BinaryOperator.lexeme_of_ofLexeme? stands ▸ stands
  have operator : Part allowIn s.lexemes s₁.lexemes 0 := by
    by_cases isIn : op = .isIn
    · subst isIn
      cases BinaryOperator.lexeme_of_ofLexeme? stands
      obtain ⟨-, allowed⟩ : least ≤ BinaryOperator.isIn.precedence?.getD 0 ∧ allowIn = true := by
        simpa using continues
      exact ⟨true, Flat.isIn front, fun _ => allowed⟩
    · exact (Flat.refl.skip front (BinaryOperator.isPlain stands isIn)).part
  have part : Part allowIn s.lexemes s₂.lexemes (right.tally 1 0) := by
    have whole := operator.trans read.part
    rwa [Nat.zero_add] at whole
  let whole : Expression Text :=
    if op.isLogical then .logical op left right else .binary op left right
  have wholeGrammatical : whole.Grammatical := by
    unfold whole
    split
    · next isLogical => exact .logical known isLogical grammatical read.grammatical
    · next isBinary =>
      exact .binary known (Bool.eq_false_iff.mpr isBinary) grammatical read.grammatical
  have weight : whole.tally 1 0 = left.tally 1 0 + right.tally 1 0 := by
    unfold whole
    split <;> rfl
  have spelled : Extends s.lexemes left.words whole.words s₂.lexemes := by
    unfold whole
    split <;> simp [Expression.words, front, texts_binary stands, read.spelled]
  refine (ih.climb least allowIn false whole _ wholeGrammatical s₂).mono fun r s₃ grown => ?_
  obtain ⟨n, more, partMore⟩ := grown.part
  exact ⟨grown.grammatical, ⟨_, by rw [more, weight, Nat.add_assoc], part.trans partMore⟩,
    spelled.trans grown.spelled⟩

theorem Sound.unary_succ (ih : Sound depth) :
    (Grammar.unary (depth + 1)).ReadsExpression false := by
  intro s
  refine .current ?_
  rcases unary : s.lexemes.head?.bind UnaryOperator.ofLexeme? with _ | op
  · rcases update : s.lexemes.head?.bind UpdateOperator.ofLexeme? with _ | op
    · refine (ih.leftHandSide s).bind fun argument s₁ read => .mark (.current ?_)
      rcases behind : s₁.lexemes.head?.bind UpdateOperator.ofLexeme? with _ | op
      · exact .pure read
      obtain ⟨x, found, stands⟩ := Option.bind_eq_some_iff.mp behind
      refine .ite (fun _ => .pure read) fun _ => .advance found fun s₂ front _ => ?_
      refine .ite (fun target => .pure ?_) fun _ => .failAt_bind
      have known := UpdateOperator.lexeme_of_ofLexeme? stands ▸ stands
      have mark : Part false s₁.lexemes s₂.lexemes 0 :=
        (Flat.refl.skip front (UpdateOperator.isPlain stands)).part
      exact ⟨.update known target read.grammatical, read.part.trans mark,
        by simp [Expression.words, read.spelled, front, word?_update stands]⟩
    · obtain ⟨x, found, stands⟩ := Option.bind_eq_some_iff.mp update
      refine .mark (.advance found fun s₁ front _ => ?_)
      refine (ih.unary s₁).bind fun argument s₂ read => ?_
      refine .ite (fun target => .pure ?_) fun _ => .failAt_bind
      have known := UpdateOperator.lexeme_of_ofLexeme? stands ▸ stands
      exact ⟨.update known target read.grammatical,
        read.part.skip front (UpdateOperator.isPlain stands),
        by simp [Expression.words, front, word?_update stands, read.spelled]⟩
  · obtain ⟨x, found, stands⟩ := Option.bind_eq_some_iff.mp unary
    refine .advance found fun s₁ front _ => (ih.unary s₁).bind fun argument s₂ read => .pure ?_
    have known := UnaryOperator.lexeme_of_ofLexeme? stands ▸ stands
    exact ⟨.unary known read.grammatical, read.part.skip front (UnaryOperator.isPlain stands),
      by simp [Expression.words, front, texts_unary stands, read.spelled]⟩

theorem Sound.leftHandSide_succ (ih : Sound depth) :
    (Grammar.leftHandSide (depth + 1)).ReadsExpression false := by
  intro s
  have tail (head : Expression Text) (s₁ : Tokens) (read : head.Read false s.lexemes s₁.lexemes) :
      (Grammar.tail depth true head).Ensures s₁ fun e s' => e.Read false s.lexemes s'.lexemes :=
    (ih.tail true head read.grammatical s₁).mono fun _ _ => read.grow
  exact .isNext (fun _ => (ih.new s).bind tail) fun _ => (ih.primary s).bind tail

theorem Sound.new_succ (ih : Sound depth) : (Grammar.new (depth + 1)).ReadsExpression false := by
  intro s
  refine .expectWord fun s₁ front => .isNext (fun _ => .fail_bind) fun _ => ?_
  have rest (head : Expression Text) (s₂ : Tokens) (read : head.Read false s₁.lexemes s₂.lexemes) :
      Ensures (do
        let callee ← Grammar.tail depth false head
        if ← Parser.accept .parenOpen then
          return Expression.new callee (← Grammar.arguments depth)
        else return .new callee []) s₂ fun e s' => e.Read false s.lexemes s'.lexemes := by
    refine (ih.tail false head read.grammatical s₂).bind fun callee s₃ grown => ?_
    have callee := read.grow grown
    refine .accept (fun s₄ paren => ?_) fun _ => .pure ?_
    · refine (ih.arguments s₄).bind fun items s₅ ⟨each, closes, spelled⟩ => .pure ?_
      exact ⟨.new callee.grammatical each,
        (callee.part.trans (closes.flat paren rfl).part).skip front rfl,
        by simp [Expression.words, front, callee.spelled, paren, spelled]⟩
    · exact ⟨.new callee.grammatical nofun, callee.part.skip front rfl,
        by simp [Expression.words, Expression.wordsList, front, callee.spelled]⟩
  exact .isNext (fun _ => (ih.new s₁).bind rest) fun _ => (ih.primary s₁).bind rest

theorem Sound.tail_succ (ih : Sound depth) (allowCall : Bool) (head : Expression Text)
    (grammatical : head.Grammatical) (s : Tokens) :
    (Grammar.tail (depth + 1) allowCall head).Ensures s fun e s' =>
      e.Grown false head s.lexemes s'.lexemes := by
  -- One more access or call in front of what follows.
  have grow (head' : Expression Text) (grammatical' : head'.Grammatical) (s₁ : Tokens) (n : Nat)
      (weight : head'.tally 1 0 = head.tally 1 0 + n) (flat : Flat s.lexemes s₁.lexemes n false)
      (spelled : Extends s.lexemes head.words head'.words s₁.lexemes) :
      (Grammar.tail depth allowCall head').Ensures s₁ fun e s' =>
        e.Grown false head s.lexemes s'.lexemes := by
    refine (ih.tail allowCall head' grammatical' s₁).mono fun e s₂ grown => ?_
    obtain ⟨m, more, part⟩ := grown.part
    exact ⟨grown.grammatical, ⟨_, by rw [more, weight, Nat.add_assoc], flat.part.trans part⟩,
      spelled.trans grown.spelled⟩
  refine .accept (fun s₁ dot => ?_) fun _ => ?_
  · refine .expectPropertyName fun name x s₂ front spelled => ?_
    have word : Text.isWord name = true := by
      rcases spelled with ⟨_, isName⟩ | ⟨k, _, rfl⟩
      · exact isName.word
      · exact Text.isWord_spelling k
    refine grow _ (.dotted grammatical word) s₂ 0 rfl (.dotted (by rw [dot, front])) ?_
    simp [Expression.words, dot, front, word?_propertyName spelled]
  refine .accept (fun s₁ bracket => ?_) fun _ => ?_
  · refine (ih.expression true s₁).bind fun property s₂ read => .expect fun s₃ close => ?_
    refine grow _ (.computed grammatical read.grammatical) s₃ _ rfl
      ((read.part.span.closes (.close close rfl)).flat bracket rfl) ?_
    simp [Expression.words, bracket, read.spelled, close]
  refine .isNext (fun paren => .ite (fun _ => ?_) fun _ => ?_)
    fun _ => .ite (fun isCall => ?_) fun _ => ?_
  · refine .advance paren fun s₁ front _ => ?_
    refine (ih.arguments s₁).bind fun items s₂ ⟨each, closes, more⟩ => ?_
    refine grow _ (.call grammatical each) s₂ _ rfl (closes.flat front rfl) ?_
    simp [Expression.words, front, more]
  · exact .isNext (fun _ => .fail) fun _ => .pure (.refl grammatical)
  · rw [Bool.and_false] at isCall
    cases isCall
  · exact .isNext (fun _ => .fail) fun _ => .pure (.refl grammatical)

theorem Sound.arguments_succ (ih : Sound depth) :
    (Grammar.arguments (depth + 1)).ReadsClosed (∀ e ∈ ·, e.Grammatical)
      (Expression.tallyList 1 0) Expression.wordsList := by
  intro s
  refine .accept (fun s₁ close => .pure ⟨nofun, .close close rfl, spells_close close⟩) fun _ => ?_
  refine .isNext (fun _ => .fail_bind) fun _ => ?_
  refine (ih.assignment true s).bind fun item s₁ read => ?_
  refine .isNext (fun _ => ?_) fun _ => .expect fun s₂ comma => ?_
  · refine (ih.arguments s₁).bind fun items s₂ ⟨each, closes, more⟩ => .pure ?_
    exact ⟨List.forall_mem_cons.mpr ⟨read.grammatical, each⟩, read.part.span.closes closes,
      by simp [Expression.wordsList, read.spelled, more]⟩
  · refine (ih.arguments s₂).bind fun items s₃ ⟨each, closes, more⟩ => .pure ?_
    exact ⟨List.forall_mem_cons.mpr ⟨read.grammatical, each⟩,
      read.part.span.closes (closes.skip comma rfl rfl),
      by simp [Expression.wordsList, read.spelled, comma, more]⟩

theorem Sound.elements_succ (ih : Sound depth) :
    (Grammar.elements (depth + 1)).ReadsClosed (∀ e, some e ∈ · → e.Grammatical)
      (Expression.tallyElements 1 0) Expression.wordsElements := by
  intro s
  refine .accept (fun s₁ close => .pure ⟨nofun, .close close rfl, spells_close close⟩) fun _ => ?_
  refine .accept (fun s₁ comma => ?_) fun _ => ?_
  · refine (ih.elements s₁).bind fun items s₂ ⟨each, closes, more⟩ => .pure ?_
    exact ⟨fun e member => each e ((List.mem_cons.mp member).resolve_left nofun),
      closes.skip comma rfl rfl, by simp [Expression.wordsElements, comma, more]⟩
  refine .isNext (fun _ => .fail_bind) fun _ => ?_
  refine (ih.assignment true s).bind fun item s₁ read => ?_
  have whole (items : List (Option (Expression Text)))
      (each : ∀ e, some e ∈ items → e.Grammatical) :
      ∀ e, some e ∈ some item :: items → e.Grammatical := by
    intro e member
    rcases List.mem_cons.mp member with first | later
    · cases first
      exact read.grammatical
    · exact each e later
  refine .isNext (fun _ => ?_) fun _ => .expect fun s₂ comma => ?_
  · refine (ih.elements s₁).bind fun items s₂ ⟨each, closes, more⟩ => .pure ?_
    exact ⟨whole items each, read.part.span.closes closes,
      by simp [Expression.wordsElements, read.spelled, more]⟩
  · refine (ih.elements s₂).bind fun items s₃ ⟨each, closes, more⟩ => .pure ?_
    exact ⟨whole items each, read.part.span.closes (closes.skip comma rfl rfl),
      by simp [Expression.wordsElements, read.spelled, comma, more]⟩

theorem Sound.properties_succ (ih : Sound depth) :
    (Grammar.properties (depth + 1)).ReadsClosed (∀ p ∈ ·, p.Grammatical)
      (Property.tallyList 1 0) Property.wordsList := by
  intro s
  refine .accept (fun s₁ close => .pure ⟨nofun, .close close rfl, spells_close close⟩) fun _ => ?_
  refine (ih.property s).bind fun item s₁ ⟨grammatical, span, spelled⟩ => ?_
  refine .isNext (fun _ => ?_) fun _ => .expect fun s₂ comma => ?_
  · refine (ih.properties s₁).bind fun items s₂ ⟨each, closes, more⟩ => .pure ?_
    exact ⟨List.forall_mem_cons.mpr ⟨grammatical, each⟩, span.closes closes,
      by simp [Property.wordsList, spelled, more]⟩
  · refine (ih.properties s₂).bind fun items s₃ ⟨each, closes, more⟩ => .pure ?_
    exact ⟨List.forall_mem_cons.mpr ⟨grammatical, each⟩,
      span.closes (closes.skip comma rfl rfl),
      by simp [Property.wordsList, spelled, comma, more]⟩

theorem Sound.property_succ (ih : Sound depth) :
    (Grammar.property (depth + 1)).ReadsSpan Property.Grammatical (Property.tally 1 0)
      Property.words := by
  intro s
  refine .current ?_
  split
  · exact .fail
  · next bracket =>
    refine .advance bracket fun s₁ front _ => ?_
    refine (ih.assignment true s₁).bind fun key s₂ read => .expect fun s₃ close => ?_
    refine (ih.propertyValue key true none (.computed read.grammatical) nofun s₃).mono ?_
    intro p s₄ grown
    obtain ⟨n, weight, span⟩ := grown.span
    have inside : Flat s.lexemes s₃.lexemes (key.tally 1 0) false :=
      (read.part.span.closes (.close close rfl)).flat front rfl
    refine ⟨grown.grammatical, weight ▸ inside.span.trans span, Eq.trans ?_ grown.spelled⟩
    simp [front, read.spelled, close]
  · next name found =>
    refine .advance found fun s₁ front isName => ?_
    refine (ih.propertyValue (.identifier name) false (some name) (.name isName.word) ?_ s₁).mono ?_
    · rintro _ ⟨⟩
      exact ⟨isName, rfl, rfl⟩
    · exact fun p s₂ grown => grown.behind front rfl rfl rfl
  · next word found =>
    refine .advance found fun s₁ front _ => ?_
    refine (ih.propertyValue (.identifier word.spelling) false none
      (.name (Text.isWord_spelling word)) nofun s₁).mono ?_
    exact fun p s₂ grown => grown.behind front rfl (grown.safe word) rfl
  · next value found =>
    refine .advance found fun s₁ front _ => ?_
    refine (ih.propertyValue _ false none .string nofun s₁).mono ?_
    exact fun p s₂ grown => grown.behind front rfl rfl rfl
  · next raw found =>
    refine .advance found fun s₁ front isSpelling => .numberOf fun value denotes => ?_
    refine (ih.propertyValue _ false none (.number isSpelling denotes) nofun s₁).mono ?_
    exact fun p s₂ grown => grown.behind front rfl rfl rfl
  · exact .failFound

theorem Sound.propertyValue_succ (ih : Sound depth) (key : Expression Text) (computed : Bool)
    (shorthand : Option Text) (isKey : key.IsKey computed)
    (named : ∀ name ∈ shorthand, Text.IsName name ∧ key = .identifier name ∧ computed = false)
    (s : Tokens) :
    (Grammar.propertyValue (depth + 1) key computed shorthand).Ensures s fun p s' =>
      p.Grown key computed s.lexemes s'.lexemes := by
  refine .accept (fun s₁ colon => ?_) fun _ => .accept (fun s₁ paren => ?_) fun absent => ?_
  · refine (ih.assignment true s₁).bind fun value s₂ read => .pure ?_
    refine ⟨.pair isKey read.grammatical, ⟨_, rfl, read.part.span.skip colon rfl rfl⟩,
      fun _ => isHazard_keyword fun clause paren => ?_, ?_⟩
    · rw [colon] at paren
      cases paren
    · simp [Property.words, colon, read.spelled]
  · refine (ensures_params depth s₁).bind fun names s₂ ⟨each, flat, spelled⟩ => ?_
    refine (ih.block s₂).bind fun body s₃ ⟨grammatical, inner, more⟩ => .pure ?_
    have names := (flat.span.closes (.close rfl rfl)).flat paren rfl
    refine ⟨.method isKey each grammatical, ⟨_, rfl, ?_⟩, fun _ => isHazard_keyword ?_, ?_⟩
    · have whole := (names.trans inner).span
      rwa [Nat.zero_add] at whole
    · intro clause same
      rw [paren] at same
      cases same
      exact flat.isOpen_close rfl
    · simp [Property.words, Expression.words, Word.method, paren, spelled, more]
  · cases shorthand with
    | none => exact .failFound
    | some name =>
      obtain ⟨isName, rfl, rfl⟩ := named name rfl
      have alone : Property.Grown (.identifier name) false s.lexemes s.lexemes
          (.mk (.identifier name) (.identifier name) false true false) :=
        ⟨.shorthand isName, ⟨0, rfl, .refl⟩, fun _ => isHazard_keyword fun clause same =>
          absurd (congrArg List.head? same) absent, by simp [Property.words, Expression.words]⟩
      refine .current ?_
      split
      · exact .ite (fun _ => .fail) fun _ => .pure alone
      · exact .ite (fun _ => .fail) fun _ => .pure alone
      · exact .pure alone

theorem Sound.parenthesized_succ (ih : Sound depth) :
    (Grammar.parenthesized (depth + 1)).ReadsExpression false := by
  intro s
  refine .expect fun s₁ paren => (ih.expression true s₁).bind fun inner s₂ read => ?_
  refine .expect fun s₃ close => .pure ⟨read.grammatical, ?_, by simp [paren, read.spelled, close]⟩
  exact ((read.part.span.closes (.close close rfl)).flat paren rfl).part

theorem Sound.functionExpression_succ (ih : Sound depth) :
    (Grammar.functionExpression (depth + 1)).ReadsExpression false := by
  intro s
  refine .expectWord fun s₁ front => .isNext (fun _ => .fail_bind) fun _ => .current ?_
  have rest (name : Option Text) (isName : ∀ n ∈ name, Text.IsName n) (s₂ : Tokens)
      (flat : Flat s₁.lexemes s₂.lexemes 0 false)
      (spelled : Spells s₁.lexemes (name.toList.map .name) s₂.lexemes) :
      Ensures (do
        Parser.expect .parenOpen
        let names ← params depth
        return Expression.function name names (← Grammar.block depth)) s₂
        fun e s' => e.Read false s.lexemes s'.lexemes := by
    refine .expect fun s₃ paren => ?_
    refine (ensures_params depth s₃).bind fun names s₄ ⟨each, inside, listed⟩ => ?_
    refine (ih.block s₄).bind fun body s₅ ⟨grammatical, inner, more⟩ => .pure ?_
    have list := (inside.span.closes (.close rfl rfl)).flat paren rfl
    have whole := (flat.trans list).trans inner
    rw [Nat.zero_add] at whole
    refine ⟨.function isName each grammatical, (whole.skip front rfl).part, ?_⟩
    cases name <;> simp_all [Expression.words]
  split
  · next name found =>
    refine .advance found fun s₂ identifier isName => ?_
    exact rest (some name) (by rintro _ ⟨⟩; exact isName) s₂ (Flat.refl.skip identifier rfl)
      (by simp [identifier])
  · exact rest none nofun s₁ .refl rfl

theorem Sound.primary_succ (ih : Sound depth) :
    (Grammar.primary (depth + 1)).ReadsExpression false := by
  intro s
  have single {x : Lexeme} {e : Expression Text} {s₁ : Tokens} (front : s.lexemes = x :: s₁.lexemes)
      (plain : x.isPlain = true) (grammatical : e.Grammatical) (weight : e.tally 1 0 = 0)
      (word : texts id e.words = x.word?.toList) :
      e.Read false s.lexemes s₁.lexemes :=
    ⟨grammatical, by rw [weight]; exact (Flat.refl.skip front plain).part, by simp [front, word]⟩
  refine .current ?_
  split
  · exact .fail
  · next found =>
    exact .advance found fun s₁ front isName =>
      .pure (single front rfl (.identifier isName) rfl rfl)
  · next found =>
    refine .advance found fun s₁ front isSpelling => .numberOf fun value denotes => ?_
    exact .pure (single front rfl (.number isSpelling denotes) rfl rfl)
  · next found => exact .advance found fun s₁ front _ => .pure (single front rfl .string rfl rfl)
  · next found => exact .advance found fun s₁ front _ => .pure (single front rfl .boolean rfl rfl)
  · next found => exact .advance found fun s₁ front _ => .pure (single front rfl .boolean rfl rfl)
  · next found => exact .advance found fun s₁ front _ => .pure (single front rfl .null rfl rfl)
  · next found => exact .advance found fun s₁ front _ => .pure (single front rfl .this rfl rfl)
  · exact ih.functionExpression s
  · split
    · exact .fail
    · exact .failFound
  · exact ih.parenthesized s
  · next found =>
    refine .advance found fun s₁ bracket _ => ?_
    refine (ih.elements s₁).bind fun es s₂ ⟨each, closes, more⟩ => ?_
    exact .pure ⟨.array each, (closes.flat bracket rfl).part,
      by simp [Expression.words, bracket, more]⟩
  · next found =>
    refine .advance found fun s₁ brace _ => ?_
    refine (ih.properties s₁).bind fun ps s₂ ⟨each, closes, more⟩ => ?_
    exact .pure ⟨.object each, (closes.flat brace rfl).part,
      by simp [Expression.words, brace, more]⟩
  · exact .fail
  · exact .fail
  · exact .failFound

end Step

end Grammar

end LibraryDescriptor
