import LibraryDescriptor.Proofs.Parser.ExpressionSoundness

/-!
# What the grammar makes of a text

* `Grammar.sound` — what is known of a tree and its tokens holds at every depth, by induction with
  one step for each function of the grammar.
* `parse_sound` — the items of a module are grammatical, and its text has the hazards of its arrow
  functions only.
* `parse_spelled` — the words of a module are those of its text.
-/

namespace LibraryDescriptor

open LibraryDescriptor.Parser (Ensures)
open LibraryDescriptor.Word (texts)

namespace Grammar

section Step

variable {depth : Nat}

/-! ## Statements -/

theorem Sound.block_succ (ih : Sound depth) (s : Tokens) :
    (Grammar.block (depth + 1)).Ensures s fun body s' => (∀ s ∈ body, s.Grammatical) ∧
      Flat s.lexemes s'.lexemes (Statement.tallyList 1 0 body) false ∧
      Spells s.lexemes (Statement.wordsList body) s'.lexemes :=
  .expect fun s₁ brace => (ih.blockItems s₁).mono fun _ _ ⟨each, closes, more⟩ =>
    ⟨each, closes.flat brace rfl, by simp [brace, more]⟩

theorem Sound.blockItems_succ (ih : Sound depth) :
    (Grammar.blockItems (depth + 1)).ReadsClosed (∀ s ∈ ·, s.Grammatical)
      (Statement.tallyList 1 0) Statement.wordsList := by
  intro s
  refine .accept (fun s₁ close => .pure ⟨nofun, .close close rfl, spells_close close⟩) fun _ => ?_
  refine .atEnd (fun _ => .failFound_bind) ((ih.statement s).bind fun item s₁ read => ?_)
  refine (ih.blockItems s₁).bind fun items s₂ ⟨each, closes, more⟩ => .pure ?_
  exact ⟨List.forall_mem_cons.mpr ⟨read.grammatical, each⟩, read.part.closes closes,
    by simp [Statement.wordsList, read.spelled, more]⟩

theorem Sound.caseItems_succ (ih : Sound depth) :
    (Grammar.caseItems (depth + 1)).ReadsSpan (∀ s ∈ ·, s.Grammatical)
      (Statement.tallyList 1 0) Statement.wordsList := by
  intro s
  have items : Ensures (do
      if ← Parser.atEnd then Parser.failFound (.expected Punctuator.braceClose.spelling)
      let item ← Grammar.statement depth
      return item :: (← Grammar.caseItems depth)) s fun body s' =>
      (∀ s ∈ body, s.Grammatical) ∧ Span s.lexemes s'.lexemes (Statement.tallyList 1 0 body) ∧
        Spells s.lexemes (Statement.wordsList body) s'.lexemes := by
    refine .atEnd (fun _ => .failFound_bind) ((ih.statement s).bind fun item s₁ read => ?_)
    refine (ih.caseItems s₁).bind fun items s₂ ⟨each, span, more⟩ => .pure ?_
    exact ⟨List.forall_mem_cons.mpr ⟨read.grammatical, each⟩, read.part.trans span,
      by simp [Statement.wordsList, read.spelled, more]⟩
  have none : Ensures (pure [] : Parser (List (Statement Text))) s fun body s' =>
      (∀ s ∈ body, s.Grammatical) ∧ Span s.lexemes s'.lexemes (Statement.tallyList 1 0 body) ∧
        Spells s.lexemes (Statement.wordsList body) s'.lexemes :=
    .pure ⟨nofun, .refl, rfl⟩
  refine .isNext (fun _ => ?_) fun _ => .isNext (fun _ => ?_) fun _ => .isNext (fun _ => none)
    fun _ => items
  · exact .isNext (fun _ => .isNext (fun _ => none) fun _ => none)
      fun _ => .isNext (fun _ => none) fun _ => none
  · exact .isNext (fun _ => none) fun _ => none

/-- The end of a statement inside brackets. -/
theorem span_endStatement {s s' : Tokens}
    (ended : s.lexemes = .punctuator .semicolon :: s'.lexemes ∨ s' = s) :
    Span s.lexemes s'.lexemes 0 := by
  rcases ended with semicolon | rfl
  · exact Span.refl.skip semicolon rfl rfl
  · exact .refl

/-- The end of a statement takes no word. -/
theorem words_endStatement {s s' : Tokens}
    (ended : s.lexemes = .punctuator .semicolon :: s'.lexemes ∨ s' = s) :
    Lexeme.words s.lexemes = Lexeme.words s'.lexemes := by
  rcases ended with semicolon | rfl
  · simp [semicolon]
  · rfl

theorem Sound.expressionStatement_succ (ih : Sound depth) :
    (Grammar.expressionStatement (depth + 1)).ReadsStatement := by
  intro s
  refine .mark ((ih.expression true s).bind fun value s₁ read => ?_)
  have ended : Ensures (do Parser.endStatement; return Statement.expression value) s₁ fun st s' =>
      st.Read s.lexemes s'.lexemes :=
    .endStatement fun s₂ ended => .pure
      ⟨.expression read.grammatical, read.part.span.trans (span_endStatement ended), nofun,
        by simp [Statement.words, read.spelled, words_endStatement ended]⟩
  split
  · exact .isNext (fun _ => .failAt_bind) fun _ => ended
  · exact ended

theorem Sound.functionDeclaration_succ (ih : Sound depth) :
    (Grammar.functionDeclaration (depth + 1)).ReadsSpan Declaration.Grammatical
      (Declaration.tally 1 0) Declaration.words := by
  intro s
  refine .expectWord fun s₁ front => .isNext (fun _ => .fail_bind) fun _ => ?_
  refine .expectIdentifier fun name s₂ identifier isName => .expect fun s₃ paren => ?_
  refine (ensures_params depth s₃).bind fun names s₄ ⟨each, inside, listed⟩ => ?_
  refine (ih.block s₄).bind fun body s₅ ⟨grammatical, inner, more⟩ => .pure ?_
  have names := (inside.span.closes (.close rfl rfl)).flat paren rfl
  have whole := names.trans inner
  rw [Nat.zero_add] at whole
  exact ⟨.function isName each grammatical, ((whole.skip identifier rfl).skip front rfl).span,
    by simp [Declaration.words, front, identifier, paren, listed, more]⟩

theorem Sound.variableStatement_succ (ih : Sound depth) (kind : VariableKind) (s : Tokens)
    (found : s.lexemes.head? = some (.keyword kind.keyword)) :
    (Grammar.variableStatement (depth + 1) kind).Ensures s fun st s' =>
      st.Read s.lexemes s'.lexemes :=
  (ih.variableDeclaration kind s found).bind fun _ _ ⟨grammatical, span, spelled⟩ =>
    .pure ⟨.declaration grammatical, span, nofun, spelled⟩

theorem Sound.variableDeclaration_succ (ih : Sound depth) (kind : VariableKind) (s : Tokens)
    (found : s.lexemes.head? = some (.keyword kind.keyword)) :
    (Grammar.variableDeclaration (depth + 1) kind).Ensures s fun value s' =>
      value.Grammatical ∧ Span s.lexemes s'.lexemes (value.tally 1 0) ∧
        Spells s.lexemes value.words s'.lexemes := by
  refine .advance found fun s₁ front _ => ?_
  refine (ih.declarators true s₁).bind fun items s₂ ⟨present, each, part, spelled⟩ => ?_
  refine .checkInitializers fun complete => .endStatement fun s₃ ended => .pure ?_
  refine ⟨.variables present complete each, ?_,
    by simp [Declaration.words, front, spelled, words_endStatement ended]⟩
  have plain : (Lexeme.keyword kind.keyword).isPlain = true := by cases kind <;> rfl
  exact (part.skip front plain).span.trans (span_endStatement ended)

theorem Sound.declarators_succ (ih : Sound depth) (allowIn : Bool) (s : Tokens) :
    (Grammar.declarators (depth + 1) allowIn).Ensures s fun ds s' =>
      ds ≠ [] ∧ (∀ d ∈ ds, d.Grammatical) ∧
        Part allowIn s.lexemes s'.lexemes (Declarator.tallyList 1 0 ds) ∧
        Spells s.lexemes (Declarator.wordsList ds) s'.lexemes := by
  refine .refusePattern (.expectIdentifier fun name s₁ identifier isName => ?_)
  have rest (init : Option (Expression Text)) (grammatical : ∀ e ∈ init, e.Grammatical)
      (s₂ : Tokens) (part : Part allowIn s₁.lexemes s₂.lexemes (Expression.tallyOption 1 0 init))
      (spelled : Spells s₁.lexemes (Expression.wordsOption init) s₂.lexemes) :
      Ensures (do
        if ← Parser.accept .comma then
          return Declarator.mk name init :: (← Grammar.declarators depth allowIn)
        else return [.mk name init]) s₂ fun ds s' => ds ≠ [] ∧ (∀ d ∈ ds, d.Grammatical) ∧
          Part allowIn s.lexemes s'.lexemes (Declarator.tallyList 1 0 ds) ∧
          Spells s.lexemes (Declarator.wordsList ds) s'.lexemes := by
    have first : Declarator.Grammatical (.mk name init) := .mk isName grammatical
    refine .accept (fun s₃ comma => ?_) fun _ => .pure ⟨List.cons_ne_nil _ _, ?_, ?_, ?_⟩
    · refine (ih.declarators allowIn s₃).bind fun items s₄ ⟨_, each, more, further⟩ => .pure ?_
      exact ⟨List.cons_ne_nil _ _, List.forall_mem_cons.mpr ⟨first, each⟩,
        (part.trans (more.skip comma rfl)).skip identifier rfl,
        by simp [Declarator.wordsList, identifier, spelled, comma, further]⟩
    · simpa using first
    · exact part.skip identifier rfl
    · simp [Declarator.wordsList, identifier, spelled]
  refine .accept (fun s₂ assign => ?_) fun _ => rest none nofun s₁ Flat.refl.part rfl
  refine (ih.assignment allowIn s₂).bind fun value s₃ read => ?_
  refine rest (some value) (by rintro _ ⟨⟩; exact read.grammatical) s₃
    (read.part.skip assign rfl) ?_
  simp [Expression.wordsOption, assign, read.spelled]

theorem Sound.ifStatement_succ (ih : Sound depth) :
    (Grammar.ifStatement (depth + 1)).ReadsStatement := by
  intro s
  refine .expectWord fun s₁ front => (ih.parenthesized s₁).bind fun test s₂ readTest => ?_
  refine (ih.statement s₂).bind fun consequent s₃ read => ?_
  refine .acceptWord (fun s₄ word => ?_) fun absent => .pure ?_
  · refine (ih.statement s₄).bind fun alternate s₅ readElse => .pure ?_
    -- An `else` is ahead, so the statement in front of it does not take one.
    have closed : consequent.endsOpen = false :=
      Bool.eq_false_iff.mpr fun dangling => read.dangling dangling (by rw [word]; rfl)
    exact ⟨.ifElse readTest.grammatical read.grammatical closed readElse.grammatical,
      ((readTest.part.skip front rfl).span.trans read.part).trans
        (readElse.part.skip word rfl rfl), readElse.dangling, by
      simp [Statement.words, front, readTest.spelled, read.spelled, word, readElse.spelled]⟩
  · exact ⟨.ifThen readTest.grammatical read.grammatical,
      (readTest.part.skip front rfl).span.trans read.part, fun _ => absent,
      by simp [Statement.words, front, readTest.spelled, read.spelled]⟩

theorem Sound.forStatement_succ (ih : Sound depth) :
    (Grammar.forStatement (depth + 1)).ReadsStatement := by
  intro s
  refine .expectWord fun s₁ word => .expect fun s₂ paren => .current ?_
  -- The first part shows no `in`, so the head is no hazard.
  have whole {first n : Nat} {ws : List (Word Text)} {st : Statement Text} {s₃ s₄ : Tokens}
      (part : Part false s₂.lexemes s₃.lexemes n) (same : first = n)
      (spelled : Spells s₂.lexemes ws s₃.lexemes)
      (read : st.LoopRead first ws s₃.lexemes s₄.lexemes) : st.Read s.lexemes s₄.lexemes := by
    subst same
    obtain ⟨ys, m, n, closes, span, weight⟩ := read.part
    have head := (part.span.closes closes).loop (word.trans (by rw [paren]))
    rw [read.closed _ _ part.flat, Bool.toNat_false, Nat.zero_add] at head
    refine ⟨read.grammatical, weight ▸ head.trans span, read.dangling, Eq.trans ?_ read.spelled⟩
    simp [word, paren, spelled]
  rcases stands : s₂.lexemes.head?.bind VariableKind.ofLexeme? with _ | kind
  · refine .isNext (fun _ => ?_) fun _ => ?_
    · exact (ih.forRest none nofun s₂).mono fun _ _ => whole Flat.refl.part rfl rfl
    refine (ih.expression false s₂).bind fun value s₃ readValue => ?_
    have each : Ensures (do
        unless isTarget value do Parser.fail .invalidLoopTarget
        Grammar.forEach depth (.expression value)) s₃ fun st s' => st.Read s.lexemes s'.lexemes :=
      .ite (fun target => (ih.forEach _ (.expression target readValue.grammatical) s₃).mono
        fun _ _ => whole readValue.part rfl readValue.spelled) fun _ => .fail_bind
    have rest : (Grammar.forRest depth (some (.expression value))).Ensures s₃ fun st s' =>
        st.Read s.lexemes s'.lexemes := by
      refine (ih.forRest _ (by rintro _ ⟨⟩; exact .expression readValue.grammatical) s₃).mono ?_
      exact fun _ _ => whole readValue.part (Nat.zero_add _) readValue.spelled
    exact .isNext (fun _ => .isNext (fun _ => each) fun _ => each)
      fun _ => .isNext (fun _ => each) fun _ => rest
  · obtain ⟨x, found, stands⟩ := Option.bind_eq_some_iff.mp stands
    refine .advance found fun s₃ front _ => ?_
    refine (ih.declarators false s₃).bind fun items s₄ ⟨present, grammatical, part, spelled⟩ => ?_
    replace part := part.skip front (VariableKind.isPlain stands)
    have declared : Spells s₂.lexemes (LoopHead.variables kind items).words s₄.lexemes := by
      simp [LoopHead.words, front, word?_variable stands, spelled]
    have target {name : Text} (alone : items = [.mk name none]) :
        (Grammar.forEach depth (.variables kind items)).Ensures s₄ fun st s' =>
          st.Read s.lexemes s'.lexemes := by
      subst alone
      have isName : Text.IsName name := by
        cases grammatical _ List.mem_cons_self with
        | mk isName _ => exact isName
      exact (ih.forEach _ (.variable isName) s₄).mono fun _ _ => whole part rfl declared
    have rest : Ensures (do
        checkInitializers kind items
        Grammar.forRest depth (some (.variables kind items))) s₄ fun st s' =>
        st.Read s.lexemes s'.lexemes := by
      refine .checkInitializers fun complete => ?_
      refine (ih.forRest _ (by rintro _ ⟨⟩; exact .variables present complete grammatical)
        s₄).mono ?_
      exact fun _ _ => whole part (Nat.zero_add _) declared
    refine .isNext (fun _ => .isNext (fun _ => ?_) fun _ => ?_)
      fun _ => .isNext (fun _ => ?_) fun _ => rest
    all_goals
      obtain _ | ⟨⟨_, _ | _⟩, _ | _⟩ := items
      exacts [.fail, target rfl, .fail, .fail, .fail]

theorem Sound.forEach_succ (ih : Sound depth) (left : LoopHead Text) (isTarget : left.IsTarget)
    (s : Tokens) : (Grammar.forEach (depth + 1) left).Ensures s fun st s' =>
      st.LoopRead (left.tally 1 0) left.words s.lexemes s'.lexemes := by
  refine .acceptWord (fun s₁ word => ?_) fun _ => .expectContextual fun s₁ word => ?_
  · refine (ih.expression true s₁).bind fun right s₂ read => .expect fun s₃ close => ?_
    refine (ih.statement s₃).bind fun body s₄ readBody => .pure ?_
    obtain ⟨shown, flat, _⟩ := read.part
    have closes := (Flat.isIn word).span.trans flat.span |>.closes (.close close rfl)
    rw [Nat.zero_add] at closes
    refine ⟨.forIn isTarget read.grammatical readBody.grammatical,
      ⟨_, _, _, closes, readBody.part, rfl⟩, readBody.dangling, fun clause n target => ?_,
      by simp [Statement.words, word, read.spelled, close, readBody.spelled]⟩
    have whole := target.trans ((Flat.isIn word).trans flat)
    rw [close] at whole
    exact whole.isOpen_close rfl
  · refine (ih.assignment true s₁).bind fun right s₂ read => .expect fun s₃ close => ?_
    refine (ih.statement s₃).bind fun body s₄ readBody => .pure ?_
    obtain ⟨shown, flat, _⟩ := read.part
    have behind := flat.skip word rfl
    refine ⟨.forOf isTarget read.grammatical readBody.grammatical,
      ⟨_, _, _, behind.span.closes (.close close rfl), readBody.part, rfl⟩, readBody.dangling,
      fun clause n target => ?_,
      by simp [Statement.words, word, read.spelled, close, readBody.spelled]⟩
    have whole := target.trans behind
    rw [close] at whole
    exact whole.isOpen_close rfl

theorem Sound.forRest_succ (ih : Sound depth) (init : Option (LoopHead Text))
    (grammatical : ∀ head ∈ init, head.Grammatical) (s : Tokens) :
    (Grammar.forRest (depth + 1) init).Ensures s fun st s' =>
      st.LoopRead (LoopHead.tallyOption 1 0 init) (LoopHead.wordsOption init) s.lexemes
        s'.lexemes := by
  refine .expect fun s₁ first => ?_
  refine (ih.optionalBefore .semicolon s₁).bind
    fun test s₂ ⟨testGrammatical, testSpan, tested⟩ => ?_
  refine .expect fun s₃ second => ?_
  refine (ih.optionalBefore .parenClose s₃).bind
    fun update s₄ ⟨updateGrammatical, updateSpan, updated⟩ => ?_
  refine .expect fun s₅ close => (ih.statement s₅).bind fun body s₆ read => .pure ?_
  have closes := (testSpan.skip first rfl rfl).closes
    ((updateSpan.skip second rfl rfl).closes (.close close rfl))
  refine ⟨.for grammatical testGrammatical updateGrammatical read.grammatical,
    ⟨_, _, _, closes, read.part, ?_⟩, read.dangling, fun clause n flat => ?_, ?_⟩
  · rw [Nat.add_zero, ← Nat.add_assoc]
    rfl
  · rw [first] at flat
    exact flat.isOpen_semicolon
  · simp [Statement.words, first, tested, second, updated, close, read.spelled]

theorem Sound.optionalBefore_succ (ih : Sound depth) (finish : Punctuator) :
    (Grammar.optionalBefore (depth + 1) finish).ReadsSpan (∀ e ∈ ·, e.Grammatical)
      (Expression.tallyOption 1 0) Expression.wordsOption := by
  intro s
  refine .isNext (fun _ => .pure ⟨nofun, .refl, rfl⟩) fun _ => ?_
  refine (ih.expression true s).bind fun value s₁ read => .pure ⟨?_, read.part.span, read.spelled⟩
  rintro _ ⟨⟩
  exact read.grammatical

theorem Sound.doStatement_succ (ih : Sound depth) :
    (Grammar.doStatement (depth + 1)).ReadsStatement := by
  intro s
  refine .expectWord fun s₁ front => (ih.statement s₁).bind fun body s₂ read => ?_
  refine .expectWord fun s₃ word => (ih.parenthesized s₃).bind fun test s₄ readTest => ?_
  have whole := (read.part.skip front rfl rfl).trans (readTest.part.skip word rfl).span
  refine .accept (fun s₅ semicolon => .pure ?_) fun _ => .pure ?_
  · exact ⟨.doWhile read.grammatical readTest.grammatical,
      whole.trans (span_endStatement (.inl semicolon)), nofun,
      by simp [Statement.words, front, read.spelled, word, readTest.spelled, semicolon]⟩
  · exact ⟨.doWhile read.grammatical readTest.grammatical, whole, nofun,
      by simp [Statement.words, front, read.spelled, word, readTest.spelled]⟩

theorem Sound.returnStatement_succ (ih : Sound depth) :
    (Grammar.returnStatement (depth + 1)).ReadsStatement := by
  intro s
  refine .expectWord fun s₁ front => ?_
  have ended (argument : Option (Expression Text)) (grammatical : ∀ e ∈ argument, e.Grammatical)
      (s₂ : Tokens) (span : Span s₁.lexemes s₂.lexemes (Expression.tallyOption 1 0 argument))
      (spelled : Spells s₁.lexemes (Expression.wordsOption argument) s₂.lexemes) :
      Ensures (do Parser.endStatement; return Statement.return argument) s₂ fun st s' =>
        st.Read s.lexemes s'.lexemes :=
    .endStatement fun s₃ ended => .pure ⟨.return grammatical,
      (span.skip front rfl rfl).trans (span_endStatement ended), nofun,
      by simp [Statement.words, front, spelled, words_endStatement ended]⟩
  have rest (c : Prop) [Decidable c] : Ensures (if c then do
        Parser.endStatement; return Statement.return none
      else do
        let value ← Grammar.expression depth true
        Parser.endStatement
        return .return (some value)) s₁ fun st s' => st.Read s.lexemes s'.lexemes := by
    refine .ite (fun _ => ended none nofun s₁ .refl rfl) fun _ => ?_
    refine (ih.expression true s₁).bind fun value s₂ read => ?_
    refine ended (some value) ?_ s₂ read.part.span read.spelled
    rintro _ ⟨⟩
    exact read.grammatical
  have marked (a b : Bool) : Ensures (do
      let c ← Parser.atEnd
      let place ← Parser.mark
      if a || b || c || place.afterBreak then do
        Parser.endStatement; return Statement.return none
      else do
        let value ← Grammar.expression depth true
        Parser.endStatement
        return .return (some value)) s₁ fun st s' => st.Read s.lexemes s'.lexemes :=
    .atEnd (fun _ => .mark (rest _)) (.mark (rest _))
  exact .isNext (fun _ => .isNext (fun _ => marked _ _) fun _ => marked _ _)
    fun _ => .isNext (fun _ => marked _ _) fun _ => marked _ _

theorem Sound.throwStatement_succ (ih : Sound depth) :
    (Grammar.throwStatement (depth + 1)).ReadsStatement := by
  intro s
  refine .expectWord fun s₁ front => .mark (.ite (fun _ => .fail_bind) fun _ => ?_)
  refine (ih.expression true s₁).bind fun argument s₂ read => .endStatement fun s₃ ended => .pure ?_
  exact ⟨.throw read.grammatical,
    (read.part.skip front rfl).span.trans (span_endStatement ended), nofun,
    by simp [Statement.words, front, read.spelled, words_endStatement ended]⟩

theorem Sound.tryStatement_succ (ih : Sound depth) :
    (Grammar.tryStatement (depth + 1)).ReadsStatement := by
  intro s
  refine .expectWord fun s₁ front => (ih.block s₁).bind fun body s₂ ⟨each, flat, first⟩ => ?_
  refine (ih.catchClause s₂).bind fun handler s₃ ⟨handles, span, second⟩ => ?_
  have rest (finalizer : Option (List (Statement Text)))
      (grammatical : ∀ body ∈ finalizer, ∀ s ∈ body, s.Grammatical) (s₄ : Tokens)
      (behind : Span s₃.lexemes s₄.lexemes (Statement.tallyFinalizer 1 0 finalizer))
      (third : Spells s₃.lexemes (Statement.wordsFinalizer finalizer) s₄.lexemes) :
      Ensures (do
        if handler.isNone && finalizer.isNone then Parser.fail .missingHandler
        return Statement.try body handler finalizer) s₄ fun st s' =>
        st.Read s.lexemes s'.lexemes := by
    refine .ite (fun _ => .fail_bind) fun present => .pure ⟨.try each handles grammatical ?_, ?_,
      nofun, by simp [Statement.words, front, first, second, third]⟩
    · cases handler <;> cases finalizer <;> first | rfl | exact absurd rfl present
    · exact ((flat.skip front rfl).span.trans span).trans behind
  refine .acceptWord (fun s₄ word => ?_) fun _ => rest none nofun s₃ .refl rfl
  refine (ih.block s₄).bind fun body s₅ ⟨grammatical, inner, more⟩ => ?_
  refine rest (some body) (by rintro _ ⟨⟩; exact grammatical) s₅ (inner.skip word rfl).span ?_
  simp [Statement.wordsFinalizer, word, more]

theorem Sound.catchClause_succ (ih : Sound depth) :
    (Grammar.catchClause (depth + 1)).ReadsSpan (∀ h ∈ ·, h.Grammatical)
      (CatchClause.tallyOption 1 0) CatchClause.wordsOption := by
  intro s
  refine .acceptWord (fun s₁ front => ?_) fun _ => .pure ⟨nofun, .refl, rfl⟩
  have rest (param : Option Text) (isName : ∀ n ∈ param, Text.IsName n) (s₂ : Tokens)
      (flat : Flat s₁.lexemes s₂.lexemes 0 false)
      (spelled : Spells s₁.lexemes (param.toList.map .name) s₂.lexemes) :
      Ensures (do return some (CatchClause.mk param (← Grammar.block depth))) s₂ fun handler s' =>
        (∀ h ∈ handler, h.Grammatical) ∧
          Span s.lexemes s'.lexemes (CatchClause.tallyOption 1 0 handler) ∧
          Spells s.lexemes (CatchClause.wordsOption handler) s'.lexemes := by
    refine (ih.block s₂).bind fun body s₃ ⟨each, inner, more⟩ => .pure ⟨?_, ?_, ?_⟩
    · rintro _ ⟨⟩
      exact .mk isName each
    · have whole := flat.trans inner
      rw [Nat.zero_add] at whole
      exact (whole.skip front rfl).span
    · simp [CatchClause.wordsOption, front, spelled, more]
  refine .accept (fun s₂ paren => .refusePattern ?_) fun _ => rest none nofun s₁ .refl rfl
  refine .expectIdentifier fun name s₃ identifier isName => .expect fun s₄ close => ?_
  refine rest (some name) (by rintro _ ⟨⟩; exact isName) s₄ ?_ (by simp [paren, identifier, close])
  exact ((Span.refl.skip identifier rfl rfl).closes (.close close rfl)).flat paren rfl

theorem Sound.switchStatement_succ (ih : Sound depth) :
    (Grammar.switchStatement (depth + 1)).ReadsStatement := by
  intro s
  refine .expectWord fun s₁ front => (ih.parenthesized s₁).bind fun discriminant s₂ read => ?_
  refine .expect fun s₃ brace => ?_
  refine (ih.switchCases s₃).bind fun cases s₄ ⟨each, closes, more⟩ => .pure ?_
  exact ⟨.switch read.grammatical each,
    (read.part.skip front rfl).span.trans (closes.flat brace rfl).span, nofun,
    by simp [Statement.words, front, read.spelled, brace, more]⟩

theorem Sound.switchCases_succ (ih : Sound depth) :
    (Grammar.switchCases (depth + 1)).ReadsClosed (∀ c ∈ ·, c.Grammatical)
      (SwitchCase.tallyList 1 0) SwitchCase.wordsList := by
  intro s
  refine .accept (fun s₁ close => .pure ⟨nofun, .close close rfl, spells_close close⟩) fun _ => ?_
  have rest (test : Option (Expression Text)) (grammatical : ∀ e ∈ test, e.Grammatical)
      (s₂ : Tokens) (span : Span s.lexemes s₂.lexemes (Expression.tallyOption 1 0 test))
      (first : Spells s.lexemes (SwitchCase.testWords test) s₂.lexemes) :
      Ensures (do
        Parser.expect .colon
        let body ← Grammar.caseItems depth
        return SwitchCase.mk test body :: (← Grammar.switchCases depth)) s₂ fun cases s' =>
        (∀ c ∈ cases, c.Grammatical) ∧
          Closes s.lexemes s'.lexemes (SwitchCase.tallyList 1 0 cases) ∧
          Spells s.lexemes (SwitchCase.wordsList cases) s'.lexemes := by
    refine .expect fun s₃ colon => ?_
    refine (ih.caseItems s₃).bind fun body s₄ ⟨bodyEach, bodySpan, second⟩ => ?_
    refine (ih.switchCases s₄).bind fun cases s₅ ⟨each, closes, third⟩ => .pure ?_
    exact ⟨List.forall_mem_cons.mpr ⟨.mk grammatical bodyEach, each⟩,
      (span.trans (bodySpan.skip colon rfl rfl)).closes closes,
      by simp [SwitchCase.wordsList, first, colon, second, third]⟩
  refine .acceptWord (fun s₁ word => ?_) fun _ => .expectWord fun s₁ word => ?_
  · refine (ih.expression true s₁).bind fun value s₂ read => ?_
    refine rest (some value) (by rintro _ ⟨⟩; exact read.grammatical) s₂
      (read.part.skip word rfl).span ?_
    simp [SwitchCase.testWords, word, read.spelled]
  · exact rest none nofun s₁ (Span.refl.skip word rfl rfl) (by simp [SwitchCase.testWords, word])

/-- A statement that is a word of its own. -/
theorem ensures_jump {s : Tokens} {word : Keyword} {result : Statement Text}
    (found : s.lexemes.head? = some (.keyword word)) (plain : (Lexeme.keyword word).isPlain = true)
    (grammatical : result.Grammatical) (weight : result.tally 1 0 = 0)
    (closed : result.endsOpen = false) (spelled : result.words = [.keyword word]) :
    (jump result).Ensures s fun st s' => st.Read s.lexemes s'.lexemes := by
  refine .advance found fun s₁ front _ => .current ?_
  have ended : Ensures (do Parser.endStatement; return result) s₁ fun st s' =>
      st.Read s.lexemes s'.lexemes := by
    refine .endStatement fun s₂ ended => .pure ⟨grammatical, ?_, ?_, ?_⟩
    · rw [weight]
      exact (Flat.refl.skip front plain).span.trans (span_endStatement ended)
    · rw [closed]
      nofun
    · simp [spelled, front, words_endStatement ended]
  split
  · exact .mark (.ite (fun _ => ended) fun _ => .fail_bind)
  · exact ended

theorem Sound.statement_succ (ih : Sound depth) :
    (Grammar.statement (depth + 1)).ReadsStatement := by
  intro s
  refine .current ?_
  split
  · exact .fail
  · exact (ih.block s).bind fun body s₁ ⟨each, flat, spelled⟩ =>
      .pure ⟨.block each, flat.span, nofun, spelled⟩
  · next found =>
    exact .advance found fun s₁ front _ =>
      .pure ⟨.empty, Span.refl.skip front rfl rfl, nofun, by simp [Statement.words, front]⟩
  · exact (ih.functionDeclaration s).bind fun value s₁ ⟨grammatical, span, spelled⟩ =>
      .pure ⟨.declaration grammatical, span, nofun, spelled⟩
  · next found => exact ih.variableStatement .var s found
  · next found => exact ih.variableStatement .let s found
  · next found => exact ih.variableStatement .const s found
  · exact ih.ifStatement s
  · exact ih.forStatement s
  · next found =>
    refine .advance found fun s₁ front _ => (ih.parenthesized s₁).bind fun test s₂ readTest => ?_
    refine (ih.statement s₂).bind fun body s₃ read => .pure ?_
    exact ⟨.while readTest.grammatical read.grammatical,
      (readTest.part.skip front rfl).span.trans read.part, read.dangling,
      by simp [Statement.words, front, readTest.spelled, read.spelled]⟩
  · exact ih.doStatement s
  · exact ih.returnStatement s
  · next found => exact ensures_jump found rfl .break rfl rfl rfl
  · next found => exact ensures_jump found rfl .continue rfl rfl rfl
  · exact ih.throwStatement s
  · exact ih.tryStatement s
  · exact ih.switchStatement s
  · exact .fail
  · exact .fail
  · split
    · exact .fail
    · exact ih.expressionStatement s
  · exact ih.expressionStatement s

end Step

theorem sound_zero : Sound 0 := by
  constructor <;> intros <;> first | exact Ensures.throw | exact fun _ => Ensures.throw

theorem Sound.succ {depth : Nat} (ih : Sound depth) : Sound (depth + 1) where
  expression := ih.expression_succ
  moreExpressions := ih.moreExpressions_succ
  assignment := ih.assignment_succ
  arrow := ih.arrow_succ
  conditional := ih.conditional_succ
  binary := ih.binary_succ
  climb := ih.climb_succ
  unary := ih.unary_succ
  leftHandSide := ih.leftHandSide_succ
  new := ih.new_succ
  tail := ih.tail_succ
  arguments := ih.arguments_succ
  primary := ih.primary_succ
  parenthesized := ih.parenthesized_succ
  functionExpression := ih.functionExpression_succ
  elements := ih.elements_succ
  properties := ih.properties_succ
  property := ih.property_succ
  propertyValue := ih.propertyValue_succ
  block := ih.block_succ
  blockItems := ih.blockItems_succ
  statement := ih.statement_succ
  expressionStatement := ih.expressionStatement_succ
  functionDeclaration := ih.functionDeclaration_succ
  variableStatement := ih.variableStatement_succ
  variableDeclaration := ih.variableDeclaration_succ
  declarators := ih.declarators_succ
  ifStatement := ih.ifStatement_succ
  forStatement := ih.forStatement_succ
  forEach := ih.forEach_succ
  forRest := ih.forRest_succ
  optionalBefore := ih.optionalBefore_succ
  doStatement := ih.doStatement_succ
  returnStatement := ih.returnStatement_succ
  throwStatement := ih.throwStatement_succ
  tryStatement := ih.tryStatement_succ
  catchClause := ih.catchClause_succ
  switchStatement := ih.switchStatement_succ
  switchCases := ih.switchCases_succ
  caseItems := ih.caseItems_succ

theorem sound (depth : Nat) : Sound depth := by
  induction depth with
  | zero => exact sound_zero
  | succ depth ih => exact ih.succ

/-! ## Modules -/

/-- A specifier starts with a name, which no parenthesis follows. -/
theorem span_specifier {x : Lexeme} {name : Text} {xs ys : List Lexeme} (front : xs = x :: ys)
    (spelled : x = .identifier name ∧ name.IsName ∨
      ∃ word, x = .keyword word ∧ name = word.spelling)
    (absent : ys.head? ≠ some (.punctuator .parenOpen)) :
    Text.isWord name = true ∧ Span xs ys 0 := by
  rcases spelled with ⟨rfl, isName⟩ | ⟨word, rfl, rfl⟩
  · exact ⟨isName.word, Span.refl.skip front rfl rfl⟩
  · refine ⟨Text.isWord_spelling word, Span.refl.skip front rfl (isHazard_keyword ?_)⟩
    exact fun clause paren => absurd (congrArg List.head? paren) absent

/-- Names in pairs that were read from the tokens between two places as a list. -/
def ReadsPairs (pairs : List (Text × Text)) (xs rest : List Lexeme) : Prop :=
  ∃ ws, Word.Listed id pairs ws ∧ Spells xs ws rest

namespace ReadsPairs

variable {pairs : List (Text × Text)} {xs ys rest : List Lexeme} {x y : Lexeme}
  {first second : Text}

theorem nil {mark : Punctuator} (close : xs = .punctuator mark :: rest) : ReadsPairs [] xs rest :=
  ⟨[], .nil, by simp [close]⟩

theorem skip {mark : Punctuator} (front : xs = .punctuator mark :: ys)
    (later : ReadsPairs pairs ys rest) : ReadsPairs pairs xs rest :=
  let ⟨ws, listed, spelled⟩ := later
  ⟨ws, listed, by simp [front, spelled]⟩

theorem kept (front : xs = x :: ys) (word : x.word? = some first)
    (later : ReadsPairs pairs ys rest) : ReadsPairs ((first, first) :: pairs) xs rest :=
  let ⟨_, listed, spelled⟩ := later
  ⟨_, .kept rfl listed, by simp [front, word, spelled]⟩

theorem renamed (front : xs = x :: .identifier "as" :: y :: ys) (word : x.word? = some first)
    (behind : y.word? = some second) (later : ReadsPairs pairs ys rest) :
    ReadsPairs ((first, second) :: pairs) xs rest :=
  let ⟨_, listed, spelled⟩ := later
  ⟨_, .renamed listed, by simp [front, word, behind, spelled]⟩

end ReadsPairs

theorem ensures_importItems (depth : Nat) (s : Tokens) :
    (importItems depth).Ensures s fun items s' => (∀ s ∈ items, s.Grammatical) ∧
      Closes s.lexemes s'.lexemes 0 ∧
      ReadsPairs (items.map ImportSpecifier.pair) s.lexemes s'.lexemes := by
  induction depth generalizing s with
  | zero => exact .throw
  | succ depth ih =>
    refine .accept (fun s₁ close => .pure ⟨nofun, .close close rfl, .nil close⟩) fun _ => ?_
    refine .expectPropertyName fun imported x s₁ front spelled => ?_
    refine .ite (fun _ => .fail_bind) fun named => ?_
    have rest (bound : Text) (isBound : bound = imported ∨ bound.IsName) (s₂ : Tokens)
        (span : s₂.lexemes.head? ≠ some (.punctuator .parenOpen) →
          Text.isWord imported = true ∧ Span s.lexemes s₂.lexemes 0)
        (listed : ∀ {pairs xs}, ReadsPairs pairs s₂.lexemes xs →
          ReadsPairs ((imported, bound) :: pairs) s.lexemes xs) :
        Ensures (do
          unless ← Parser.isMark .braceClose do Parser.expect .comma
          return (⟨imported, bound⟩ : ImportSpecifier Text) :: (← importItems depth)) s₂
          fun items s' => (∀ s ∈ items, s.Grammatical) ∧ Closes s.lexemes s'.lexemes 0 ∧
            ReadsPairs (items.map ImportSpecifier.pair) s.lexemes s'.lexemes := by
      refine .isNext (fun brace => ?_) fun _ => .expect fun s₃ comma => ?_
      · obtain ⟨word, span⟩ := span (by rw [brace]; nofun)
        refine (ih s₂).bind fun items s₃ ⟨each, closes, more⟩ => .pure ?_
        exact ⟨List.forall_mem_cons.mpr ⟨⟨word, named, isBound⟩, each⟩, span.closes closes,
          listed more⟩
      · obtain ⟨word, span⟩ := span (by rw [comma]; nofun)
        refine (ih s₃).bind fun items s₄ ⟨each, closes, more⟩ => .pure ?_
        exact ⟨List.forall_mem_cons.mpr ⟨⟨word, named, isBound⟩, each⟩,
          span.closes (closes.skip comma rfl rfl), listed (more.skip comma)⟩
    refine .acceptContextual (fun s₂ contextual => ?_) fun _ => ?_
    · refine .expectIdentifier fun bound s₃ identifier isName => rest bound (.inr isName) s₃ ?_ ?_
      · intro _
        obtain ⟨word, span⟩ := span_specifier front spelled (by rw [contextual]; nofun)
        exact ⟨word, span.trans ((Span.refl.skip identifier rfl rfl).skip contextual rfl rfl)⟩
      · exact .renamed (by rw [front, contextual, identifier]) (word?_propertyName spelled) rfl
    · exact rest imported (.inl rfl) s₁ (span_specifier front spelled)
        (.kept front (word?_propertyName spelled))

theorem ensures_exportItems (depth : Nat) (s : Tokens) :
    (exportItems depth).Ensures s fun items s' => (∀ s ∈ items, s.Grammatical) ∧
      Closes s.lexemes s'.lexemes 0 ∧
      ReadsPairs (items.map ExportSpecifier.pair) s.lexemes s'.lexemes := by
  induction depth generalizing s with
  | zero => exact .throw
  | succ depth ih =>
    refine .accept (fun s₁ close => .pure ⟨nofun, .close close rfl, .nil close⟩) fun _ => ?_
    refine .expectPropertyName fun bound x s₁ front spelled => ?_
    have rest (exported : Text) (s₂ : Tokens)
        (span : s₂.lexemes.head? ≠ some (.punctuator .parenOpen) →
          Text.isWord bound = true ∧ Text.isWord exported = true ∧ Span s.lexemes s₂.lexemes 0)
        (listed : ∀ {pairs xs}, ReadsPairs pairs s₂.lexemes xs →
          ReadsPairs ((bound, exported) :: pairs) s.lexemes xs) :
        Ensures (do
          if exported = Text.ofString "default" then Parser.fail (.unsupported .defaultExports)
          unless ← Parser.isMark .braceClose do Parser.expect .comma
          return (⟨bound, exported⟩ : ExportSpecifier Text) :: (← exportItems depth)) s₂
          fun items s' => (∀ s ∈ items, s.Grammatical) ∧ Closes s.lexemes s'.lexemes 0 ∧
            ReadsPairs (items.map ExportSpecifier.pair) s.lexemes s'.lexemes := by
      refine .ite (fun _ => .fail_bind) fun named => ?_
      refine .isNext (fun brace => ?_) fun _ => .expect fun s₃ comma => ?_
      · obtain ⟨word, word', span⟩ := span (by rw [brace]; nofun)
        refine (ih s₂).bind fun items s₃ ⟨each, closes, more⟩ => .pure ?_
        exact ⟨List.forall_mem_cons.mpr ⟨⟨word, word', named⟩, each⟩, span.closes closes,
          listed more⟩
      · obtain ⟨word, word', span⟩ := span (by rw [comma]; nofun)
        refine (ih s₃).bind fun items s₄ ⟨each, closes, more⟩ => .pure ?_
        exact ⟨List.forall_mem_cons.mpr ⟨⟨word, word', named⟩, each⟩,
          span.closes (closes.skip comma rfl rfl), listed (more.skip comma)⟩
    refine .acceptContextual (fun s₂ contextual => ?_) fun _ => ?_
    · refine .expectPropertyName fun exported y s₃ second spelled' => rest exported s₃ ?_ ?_
      · intro absent
        obtain ⟨word, span⟩ := span_specifier front spelled (by rw [contextual]; nofun)
        obtain ⟨word', span'⟩ := span_specifier second spelled' absent
        exact ⟨word, word', span.trans (span'.skip contextual rfl rfl)⟩
      · exact .renamed (by rw [front, contextual, second]) (word?_propertyName spelled)
          (word?_propertyName spelled')
    · refine rest bound s₁ (fun absent => ?_) (.kept front (word?_propertyName spelled))
      obtain ⟨word, span⟩ := span_specifier front spelled absent
      exact ⟨word, word, span⟩

theorem ensures_importDeclaration (depth : Nat) (s : Tokens) :
    (importDeclaration depth).Ensures s fun st s' => st.ItemRead s.lexemes s'.lexemes := by
  refine .expectWord fun s₁ front => .current ?_
  split
  · next source found =>
    refine .advance found fun s₂ string _ => .endStatement fun s₃ ended => .pure ?_
    refine ⟨.importList nofun, ((span_endStatement ended).skip string rfl rfl).skip front rfl rfl,
      [.keyword .import], .inl ⟨rfl, rfl⟩, ?_⟩
    simp [front, string, words_endStatement ended]
  · exact .fail
  · next found =>
    refine .advance found fun s₂ brace _ => ?_
    refine (ensures_importItems depth s₂).bind fun items s₃ ⟨each, closes, ws, listed, inner⟩ => ?_
    refine .expectContextual fun s₄ contextual => .expectString fun source s₅ string => ?_
    refine .endStatement fun s₆ ended => .pure ⟨.importList each, ?_, _, .inr ⟨ws, listed, rfl⟩, ?_⟩
    · have behind := ((span_endStatement ended).skip string rfl rfl).skip contextual rfl rfl
      exact ((closes.flat brace rfl).span.trans behind).skip front rfl rfl
    · simp [front, brace, inner, contextual, string, words_endStatement ended]
  · exact .fail

theorem ensures_exportDeclaration (depth : Nat) (s : Tokens) :
    (exportDeclaration depth).Ensures s fun st s' => st.ItemRead s.lexemes s'.lexemes := by
  refine .expectWord fun s₁ front => .current ?_
  have declared (value : Declaration Text) (s₂ : Tokens)
      (read : value.Grammatical ∧ Span s₁.lexemes s₂.lexemes (value.tally 1 0) ∧
        Spells s₁.lexemes value.words s₂.lexemes) :
      Ensures (pure (Statement.exportDeclaration value)) s₂ fun st s' =>
        st.ItemRead s.lexemes s'.lexemes := by
    obtain ⟨grammatical, span, spelled⟩ := read
    refine .pure ⟨.exportDeclaration grammatical, span.skip front rfl rfl, _, rfl, ?_⟩
    simp [Statement.words, front, spelled]
  split
  · exact .fail
  · exact .fail
  · exact ((sound depth).functionDeclaration s₁).bind declared
  · next found => exact ((sound depth).variableDeclaration .var s₁ found).bind declared
  · next found => exact ((sound depth).variableDeclaration .let s₁ found).bind declared
  · next found => exact ((sound depth).variableDeclaration .const s₁ found).bind declared
  · next found =>
    refine .advance found fun s₂ brace _ => ?_
    refine (ensures_exportItems depth s₂).bind fun items s₃ ⟨each, closes, ws, listed, inner⟩ => ?_
    have ended (source : Option Text) (s₄ : Tokens) (span : Span s₃.lexemes s₄.lexemes 0)
        (behind : Spells s₃.lexemes (if source.isSome then [.contextual "from"] else [])
          s₄.lexemes) :
        Ensures (do
          Parser.endStatement
          return Statement.exportList items (source.map Literal.string)) s₄ fun st s' =>
          st.ItemRead s.lexemes s'.lexemes := by
      refine .endStatement fun s₅ ended => .pure ⟨.exportList source each, ?_, _,
        ⟨ws, listed, rfl⟩, ?_⟩
      · have list := (closes.flat brace rfl).span
        exact (list.trans (span.trans (span_endStatement ended))).skip front rfl rfl
      · cases source <;> simp_all [words_endStatement ended]
    refine .acceptContextual (fun s₄ contextual => ?_) fun _ => ended none s₃ .refl rfl
    refine .expectString fun source s₅ string => ended (some source) s₅ ?_ ?_
    · exact (Span.refl.skip string rfl rfl).skip contextual rfl rfl
    · simp [contextual, string]
  · exact .failFound

theorem ensures_moduleItems (depth : Nat) (s : Tokens) :
    (moduleItems depth).Ensures s fun body _ =>
      (∀ st ∈ body, st.IsItem) ∧ hazards s.lexemes = Statement.tallyList 1 0 body ∧
        ∃ ws, Statement.SpelledList id body ws ∧ Lexeme.words s.lexemes = texts id ws := by
  induction depth generalizing s with
  | zero => exact .throw
  | succ depth ih =>
    refine .atEnd (fun ended => .pure ⟨nofun, by rw [ended]; rfl, [], .nil, by simp [ended]⟩) ?_
    have item : (moduleItem depth).Ensures s fun st s' => st.ItemRead s.lexemes s'.lexemes := by
      refine .current ?_
      split
      · exact ensures_importDeclaration depth s
      · exact ensures_exportDeclaration depth s
      · exact ((sound depth).statement s).mono fun _ _ read =>
          ⟨.statement read.grammatical, read.part, _, read.grammatical.spelled, read.spelled⟩
    refine item.bind fun st s₁ ⟨isItem, span, ws, spelled, first⟩ => ?_
    refine (ih s₁).bind fun body s₂ ⟨each, count, vs, more, further⟩ => .pure ?_
    refine ⟨List.forall_mem_cons.mpr ⟨isItem, each⟩, by rw [span.count, count]; rfl, _,
      .cons spelled more, ?_⟩
    simp [first, further]


end Grammar

/-- What is known of a module that was parsed and of the tokens of its text. -/
theorem parse_read {source : Text} {program : Program Text} (parsed : parse source = .ok program) :
    ∃ tokens, scan source = .ok tokens ∧ (∀ s ∈ program.body, s.IsItem) ∧
      hazards tokens.lexemes = Statement.tallyList 1 0 program.body ∧
      ∃ ws, program.Spelled id ws ∧ Lexeme.words tokens.lexemes = texts id ws := by
  obtain ⟨tokens, scanned, done⟩ := bind_eq_ok.mp parsed
  obtain ⟨⟨body, s'⟩, read, same⟩ := bind_eq_ok.mp done
  cases same
  have valid : tokens.Valid := scan_valid scanned
  exact ⟨tokens, scanned, (Grammar.ensures_moduleItems _ tokens valid body s' read).2⟩

/-- The statements of a module that was parsed are grammatical, and the hazards of its text are its
arrow functions with blocks. -/
theorem parse_sound {source : Text} {program : Program Text} (parsed : parse source = .ok program) :
    (∀ s ∈ program.body, s.IsItem) ∧
      ∀ tokens, scan source = .ok tokens →
        hazards tokens.lexemes = Statement.tallyList 1 0 program.body := by
  obtain ⟨tokens, scanned, items, count, -⟩ := parse_read parsed
  refine ⟨items, fun tokens' again => ?_⟩
  cases scanned.symm.trans again
  exact count

/-- A module that was parsed is written with the words of its text, in their order. -/
theorem parse_spelled {source : Text} {program : Program Text}
    (parsed : parse source = .ok program) :
    ∃ tokens ws, scan source = .ok tokens ∧ program.Spelled id ws ∧
      Lexeme.words tokens.lexemes = texts id ws := by
  obtain ⟨tokens, scanned, -, -, ws, spelled, words⟩ := parse_read parsed
  exact ⟨tokens, ws, scanned, spelled, words⟩

end LibraryDescriptor
