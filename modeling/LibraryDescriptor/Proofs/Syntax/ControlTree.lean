import LibraryDescriptor.Proofs.Syntax.Grammatical

/-!
# Control statements and their tokens

Conditional statements, loops and blocks around names. Written without its structure, such a
statement is a row of tokens, and an `else` in the row belongs to the nearest `if` that can take it.

* `Statement.IsControl` — the statements.
* `Statement.row` — the tokens of a statement, with braces where an `if` statement without `else`
  stands in front of an `else`.
* `Statement.attach`, `Statement.reread` — the statement that the row is read as.
* `Statement.row_reread` — it has the same row.
* `Statement.GainsBlocks` — a statement with more blocks in it.
* `Statement.gainsBlocks_reread_iff` — the statements that come back, but for added blocks.
-/

namespace LibraryDescriptor

inductive Expression.Named : Expression Text → Prop where
  | mk : name.IsName → Expression.Named (.identifier name)

inductive LoopHead.Named : LoopHead Text → Prop where
  | mk : value.Named → LoopHead.Named (.expression value)

inductive Statement.IsControl : Statement Text → Prop where
  | expression : value.Named → Statement.IsControl (.expression value)
  | block : (∀ s ∈ body, s.IsControl) → Statement.IsControl (.block body)
  | ifThen : test.Named → consequent.IsControl → Statement.IsControl (.if test consequent none)
  | ifElse : test.Named → consequent.IsControl → alternate.IsControl →
      Statement.IsControl (.if test consequent (some alternate))
  | for : (∀ head ∈ init, head.Named) → (∀ e ∈ test, e.Named) → (∀ e ∈ update, e.Named) →
      body.IsControl → Statement.IsControl (.for init test update body)
  | forIn : left.Named → right.Named → body.IsControl →
      Statement.IsControl (.forIn left right body)
  | forOf : left.Named → right.Named → body.IsControl →
      Statement.IsControl (.forOf left right body)
  | while : test.Named → body.IsControl → Statement.IsControl (.while test body)
  | doWhile : body.IsControl → test.Named → Statement.IsControl (.doWhile body test)
  | empty : Statement.IsControl .empty

/-! ## Rows of tokens -/

def Expression.row : Expression Text → List Lexeme
  | .identifier name => [.identifier name]
  | _ => []

def LoopHead.row : LoopHead Text → List Lexeme
  | .expression value => value.row
  | _ => []

def rowBetween (left right : Punctuator) (row : List Lexeme) : List Lexeme :=
  .punctuator left :: (row ++ [.punctuator right])

abbrev rowParens : List Lexeme → List Lexeme := rowBetween .parenOpen .parenClose

abbrev rowBraces : List Lexeme → List Lexeme := rowBetween .braceOpen .braceClose

mutual

def Statement.row : Statement Text → List Lexeme
  | .expression value => value.row ++ [.punctuator .semicolon]
  | .block body => rowBraces (Statement.rowList body)
  | .if test consequent none => .keyword .if :: (rowParens test.row ++ consequent.row)
  | .if test consequent (some alternate) =>
    .keyword .if :: (rowParens test.row ++
      ((if takesElse consequent then rowBraces consequent.row else consequent.row) ++
        .keyword .else :: alternate.row))
  | .for init test update body =>
    .keyword .for :: (rowParens (init.elim [] LoopHead.row ++ .punctuator .semicolon ::
      (test.elim [] Expression.row ++ .punctuator .semicolon :: update.elim [] Expression.row)) ++
      body.row)
  | .forIn left right body =>
    .keyword .for :: (rowParens (left.row ++ .keyword .in :: right.row) ++ body.row)
  | .forOf left right body =>
    .keyword .for :: (rowParens (left.row ++ .identifier "of" :: right.row) ++ body.row)
  | .while test body => .keyword .while :: (rowParens test.row ++ body.row)
  | .doWhile body test =>
    .keyword .do :: (body.row ++ .keyword .while ::
      (rowParens test.row ++ [.punctuator .semicolon]))
  | .empty => [.punctuator .semicolon]
  | _ => []

def Statement.rowList : List (Statement Text) → List Lexeme
  | [] => []
  | s :: ss => s.row ++ Statement.rowList ss

end

theorem Statement.rowList_eq (ss : List (Statement Text)) :
    Statement.rowList ss = (ss.map Statement.row).flatten := by
  induction ss with
  | nil => rfl
  | cons s ss ih => rw [Statement.rowList, ih, List.map_cons, List.flatten_cons]

/-! ## Where an `else` goes -/

/-- A statement that ends open, with an `else` behind it that its last open `if` takes. -/
def Statement.attach : Statement Text → Statement Text → Statement Text
  | .if test consequent none, alternate =>
    if consequent.endsOpen then .if test (consequent.attach alternate) none
    else .if test consequent (some alternate)
  | .if test consequent (some other), alternate =>
    .if test consequent (some (other.attach alternate))
  | .for init test update body, alternate => .for init test update (body.attach alternate)
  | .forIn left right body, alternate => .forIn left right (body.attach alternate)
  | .forOf left right body, alternate => .forOf left right (body.attach alternate)
  | .while test body, alternate => .while test (body.attach alternate)
  | s, _ => s

mutual

/-- The statement that the row of a statement is read as. -/
def Statement.reread : Statement Text → Statement Text
  | .block body => .block (Statement.rereadList body)
  | .if test consequent none => .if test consequent.reread none
  | .if test consequent (some alternate) =>
    if takesElse consequent then .if test (.block [consequent.reread]) (some alternate.reread)
    else if consequent.reread.endsOpen then
      .if test (consequent.reread.attach alternate.reread) none
    else .if test consequent.reread (some alternate.reread)
  | .for init test update body => .for init test update body.reread
  | .forIn left right body => .forIn left right body.reread
  | .forOf left right body => .forOf left right body.reread
  | .while test body => .while test body.reread
  | .doWhile body test => .doWhile body.reread test
  | s => s

def Statement.rereadList : List (Statement Text) → List (Statement Text)
  | [] => []
  | s :: ss => s.reread :: Statement.rereadList ss

end

theorem Statement.row_attach :
    ∀ {s : Statement Text} (alternate : Statement Text), s.endsOpen = true →
      (s.attach alternate).row = s.row ++ .keyword .else :: alternate.row
  | .if test consequent none, alternate, _ => by
    rw [Statement.attach]
    split
    · next inner => simp [Statement.row, Statement.row_attach alternate inner]
    · next closed =>
      rw [Bool.not_eq_true] at closed
      simp [Statement.row, takesElse_of_closed closed]
  | .if test consequent (some other), alternate, isOpen => by
    simp [Statement.attach, Statement.row,
      Statement.row_attach alternate (s := other) isOpen]
  | .for _ _ _ body, alternate, isOpen | .forIn _ _ body, alternate, isOpen
  | .forOf _ _ body, alternate, isOpen | .while _ body, alternate, isOpen => by
    simp [Statement.attach, Statement.row, Statement.row_attach alternate (s := body) isOpen]

mutual

/-- Reading a row again changes the structure of a statement and not its tokens. -/
theorem Statement.row_reread : ∀ s : Statement Text, s.reread.row = s.row
  | .if test consequent none => by
    simp only [Statement.reread, Statement.row, Statement.row_reread consequent]
  | .if test consequent (some alternate) => by
    have first := Statement.row_reread consequent
    have second := Statement.row_reread alternate
    rw [Statement.reread]
    split
    · next guarded =>
      simp only [Statement.row, Statement.rowList, guarded, first, second, List.append_nil]
      rfl
    · next bare =>
      split
      · next isOpen =>
        simp only [Statement.row, bare, Statement.row_attach _ isOpen, first, second,
          Bool.false_eq_true, if_false]
      · next closed =>
        rw [Bool.not_eq_true] at closed
        simp only [Statement.row, bare, takesElse_of_closed closed, first, second,
          Bool.false_eq_true, if_false]
  | .block body => by simp only [Statement.reread, Statement.row, Statement.row_rereadList body]
  | .for _ _ _ body | .forIn _ _ body | .forOf _ _ body | .while _ body | .doWhile body _ => by
    simp only [Statement.reread, Statement.row, Statement.row_reread body]
  | .declaration _ | .exportDeclaration _ | .exportList _ _ | .importList _ _ | .expression _
  | .return _ | .break | .continue | .throw _ | .try _ _ _ | .switch _ _ | .empty => rfl

theorem Statement.row_rereadList :
    ∀ ss : List (Statement Text), Statement.rowList (Statement.rereadList ss) = Statement.rowList ss
  | [] => rfl
  | s :: ss => by
    simp only [Statement.rereadList, Statement.rowList, Statement.row_reread s,
      Statement.row_rereadList ss]

end

/-! ## Rereading gives a statement of the grammar -/

theorem Expression.Named.grammatical {e : Expression Text} (named : e.Named) : e.Grammatical := by
  obtain ⟨isName⟩ := named
  exact .identifier isName

theorem LoopHead.Named.grammatical {head : LoopHead Text} (named : head.Named) :
    head.Grammatical := by
  obtain ⟨value⟩ := named
  exact .expression value.grammatical

theorem LoopHead.Named.isTarget {head : LoopHead Text} (named : head.Named) : head.IsTarget := by
  obtain ⟨⟨isName⟩⟩ := named
  exact .expression rfl (.identifier isName)

section Attach

variable {alternate : Statement Text}

theorem Statement.IsControl.attach (other : alternate.IsControl) :
    ∀ {s : Statement Text}, s.endsOpen = true → s.IsControl → (s.attach alternate).IsControl
  | .if _ _ none, _, .ifThen test consequent => by
    rw [Statement.attach]
    split
    · next inner => exact .ifThen test (attach other inner consequent)
    · exact .ifElse test consequent other
  | .if _ _ (some _), isOpen, .ifElse test consequent inner =>
    .ifElse test consequent (attach other isOpen inner)
  | .for _ _ _ _, isOpen, .for init test update body =>
    .for init test update (attach other isOpen body)
  | .forIn _ _ _, isOpen, .forIn left right body => .forIn left right (attach other isOpen body)
  | .forOf _ _ _, isOpen, .forOf left right body => .forOf left right (attach other isOpen body)
  | .while _ _, isOpen, .while test body => .while test (attach other isOpen body)

/-- An `else` goes to an `if` whose consequent is closed. -/
theorem Statement.Grammatical.attach (other : alternate.Grammatical) :
    ∀ {s : Statement Text}, s.endsOpen = true → s.Grammatical → (s.attach alternate).Grammatical
  | .if _ _ none, _, .ifThen test consequent => by
    rw [Statement.attach]
    split
    · next inner => exact .ifThen test (attach other inner consequent)
    · next closed => exact .ifElse test consequent (Bool.not_eq_true _ ▸ closed) other
  | .if _ _ (some _), isOpen, .ifElse test consequent closed inner =>
    .ifElse test consequent closed (attach other isOpen inner)
  | .for _ _ _ _, isOpen, .for init test update body =>
    .for init test update (attach other isOpen body)
  | .forIn _ _ _, isOpen, .forIn left right body => .forIn left right (attach other isOpen body)
  | .forOf _ _ _, isOpen, .forOf left right body => .forOf left right (attach other isOpen body)
  | .while _ _, isOpen, .while test body => .while test (attach other isOpen body)

end Attach

theorem Statement.mem_rereadList {ss : List (Statement Text)} {t : Statement Text} :
    t ∈ Statement.rereadList ss ↔ ∃ s ∈ ss, s.reread = t := by
  induction ss with
  | nil => simp [Statement.rereadList]
  | cons s ss ih => simp [Statement.rereadList, ih, eq_comm]

theorem Statement.IsControl.reread :
    ∀ {s : Statement Text}, s.IsControl → s.reread.IsControl ∧ s.reread.Grammatical
  | _, .expression value => ⟨.expression value, .expression value.grammatical⟩
  | _, .block each => by
    have inner : ∀ t ∈ Statement.rereadList _, t.IsControl ∧ t.Grammatical := fun t member => by
      obtain ⟨s, s_member, rfl⟩ := Statement.mem_rereadList.mp member
      exact (each s s_member).reread
    exact ⟨.block fun t member => (inner t member).1, .block fun t member => (inner t member).2⟩
  | _, .ifThen test consequent =>
    have ⟨control, grammatical⟩ := consequent.reread
    ⟨.ifThen test control, .ifThen test.grammatical grammatical⟩
  | _, .ifElse test consequent alternate => by
    obtain ⟨first, firstGrammatical⟩ := consequent.reread
    obtain ⟨second, secondGrammatical⟩ := alternate.reread
    rw [Statement.reread]
    split
    · refine ⟨.ifElse test (.block ?_) second,
        .ifElse test.grammatical (.block ?_) rfl secondGrammatical⟩
      · simpa using first
      · simpa using firstGrammatical
    · split
      · next isOpen =>
        exact ⟨.ifThen test (second.attach isOpen first),
          .ifThen test.grammatical (secondGrammatical.attach isOpen firstGrammatical)⟩
      · next closed =>
        exact ⟨.ifElse test first second, .ifElse test.grammatical firstGrammatical
          (Bool.not_eq_true _ ▸ closed) secondGrammatical⟩
  | _, .for init test update body =>
    have ⟨control, grammatical⟩ := body.reread
    ⟨.for init test update control, .for (fun h member => (init h member).grammatical)
      (fun e member => (test e member).grammatical) (fun e member => (update e member).grammatical)
      grammatical⟩
  | _, .forIn left right body =>
    have ⟨control, grammatical⟩ := body.reread
    ⟨.forIn left right control, .forIn left.isTarget right.grammatical grammatical⟩
  | _, .forOf left right body =>
    have ⟨control, grammatical⟩ := body.reread
    ⟨.forOf left right control, .forOf left.isTarget right.grammatical grammatical⟩
  | _, .while test body =>
    have ⟨control, grammatical⟩ := body.reread
    ⟨.while test control, .while test.grammatical grammatical⟩
  | _, .doWhile body test =>
    have ⟨control, grammatical⟩ := body.reread
    ⟨.doWhile control test, .doWhile grammatical test.grammatical⟩
  | _, .empty => ⟨.empty, .empty⟩

/-! ## Statements that come back -/

mutual

/-- Whether each `else` stays with its `if`: the consequent in front of it is closed, or it is an
`if` statement itself, which gets braces. -/
def Statement.keepsElse : Statement Text → Bool
  | .block body => Statement.keepsElseList body
  | .if _ consequent none => consequent.keepsElse
  | .if _ consequent (some alternate) =>
    (takesElse consequent || !consequent.endsOpen) && consequent.keepsElse && alternate.keepsElse
  | .for _ _ _ body | .forIn _ _ body | .forOf _ _ body | .while _ body | .doWhile body _ =>
    body.keepsElse
  | _ => true

def Statement.keepsElseList : List (Statement Text) → Bool
  | [] => true
  | s :: ss => s.keepsElse && Statement.keepsElseList ss

end

mutual

/-- Two statements are the same but for blocks of the second around consequents in front of an
`else`. -/
def Statement.GainsBlocks : Statement Text → Statement Text → Prop
  | .block body, t => ∃ body', t = .block body' ∧ Statement.GainsBlocksList body body'
  | .if test consequent none, t =>
    ∃ consequent', t = .if test consequent' none ∧ consequent.GainsBlocks consequent'
  | .if test consequent (some alternate), t =>
    ∃ consequent' alternate', t = .if test consequent' (some alternate') ∧
      (consequent.GainsBlocks consequent' ∨
        ∃ inner, consequent' = .block [inner] ∧ consequent.GainsBlocks inner) ∧
      alternate.GainsBlocks alternate'
  | .for init test update body, t =>
    ∃ body', t = .for init test update body' ∧ body.GainsBlocks body'
  | .forIn left right body, t => ∃ body', t = .forIn left right body' ∧ body.GainsBlocks body'
  | .forOf left right body, t => ∃ body', t = .forOf left right body' ∧ body.GainsBlocks body'
  | .while test body, t => ∃ body', t = .while test body' ∧ body.GainsBlocks body'
  | .doWhile body test, t => ∃ body', t = .doWhile body' test ∧ body.GainsBlocks body'
  | s, t => t = s

def Statement.GainsBlocksList : List (Statement Text) → List (Statement Text) → Prop
  | [], ts => ts = []
  | s :: ss, ts => ∃ t ts', ts = t :: ts' ∧ s.GainsBlocks t ∧ Statement.GainsBlocksList ss ts'

end

/-- Where each `else` stays with its `if`, rereading does not open a statement. -/
theorem Statement.endsOpen_reread :
    ∀ {s : Statement Text}, s.keepsElse = true → s.reread.endsOpen = s.endsOpen
  | .if _ _ none, _ => rfl
  | .if test consequent (some alternate), kept => by
    simp only [Statement.keepsElse, Bool.and_eq_true, Bool.or_eq_true, Bool.not_eq_true'] at kept
    obtain ⟨⟨closed, inner⟩, other⟩ := kept
    have later : alternate.reread.endsOpen = alternate.endsOpen := Statement.endsOpen_reread other
    rw [Statement.reread]
    split
    · exact later
    · next bare =>
      rw [Statement.endsOpen_reread inner, closed.resolve_left bare]
      exact later
  | .for _ _ _ body, kept | .forIn _ _ body, kept | .forOf _ _ body, kept
  | .while _ body, kept => Statement.endsOpen_reread (s := body) kept
  | .declaration _, _ | .exportDeclaration _, _ | .exportList _ _, _ | .importList _ _, _
  | .expression _, _ | .block _, _ | .return _, _ | .doWhile _ _, _ | .break, _ | .continue, _
  | .throw _, _ | .try _ _ _, _ | .switch _ _, _ | .empty, _ => rfl

theorem Statement.block_of_reread {s : Statement Text} {body : List (Statement Text)}
    (same : s.reread = .block body) :
    ∃ inner, s = .block inner ∧ body = Statement.rereadList inner := by
  match s with
  | .block inner => exact ⟨inner, rfl, (Statement.block.inj same).symm⟩
  | .if _ _ (some _) =>
    rw [Statement.reread] at same
    split at same
    · cases same
    · split at same <;> cases same

/-- A statement that is reread with a block around it is a block of one statement, of which the same
is true. -/
theorem Statement.eq_block_of_gainsBlocks {s t : Statement Text} (same : s.reread = .block [t])
    (gains : s.GainsBlocks t) :
    ∃ first, s = .block [first] ∧ first.reread = t ∧ (Statement.block [first]).GainsBlocks t := by
  obtain ⟨inner, rfl, listed⟩ := Statement.block_of_reread same
  match inner with
  | [first] => exact ⟨first, rfl, (List.cons.inj listed).1.symm, gains⟩

/-- No block is gained around a whole statement. -/
theorem Statement.not_gainsBlocks_wrapped {s t : Statement Text} (same : s.reread = .block [t])
    (gains : s.GainsBlocks t) : False := by
  obtain ⟨first, whole, rfl, gained⟩ := Statement.eq_block_of_gainsBlocks same gains
  obtain ⟨body, again, t, rest, rfl, inner, rfl⟩ := gained
  exact Statement.not_gainsBlocks_wrapped again inner
termination_by sizeOf s
decreasing_by
  simp only [whole, Statement.block.sizeOf_spec, List.cons.sizeOf_spec]
  omega

theorem Statement.not_gainsBlocks_of_takesElse {s : Statement Text} (guarded : takesElse s = true)
    {body : List (Statement Text)} : ¬ s.GainsBlocks (.block body) := by
  match s with
  | .if _ _ none =>
    rintro ⟨_, same, -⟩
    cases same

theorem Statement.gainsBlocks_ifElse_iff {test : Expression Text}
    {consequent alternate : Statement Text}
    (first : consequent.GainsBlocks consequent.reread ↔ consequent.keepsElse = true)
    (second : alternate.GainsBlocks alternate.reread ↔ alternate.keepsElse = true) :
    (Statement.if test consequent (some alternate)).GainsBlocks
        (Statement.if test consequent (some alternate)).reread ↔
      (Statement.if test consequent (some alternate)).keepsElse = true := by
  simp only [Statement.reread, Statement.GainsBlocks, Statement.keepsElse, Bool.and_eq_true,
    Bool.or_eq_true, Bool.not_eq_true', ← first, ← second]
  by_cases guarded : takesElse consequent = true
  · -- The consequent gets braces, and they are the only block that it can gain.
    simp only [guarded, if_true, true_or, true_and]
    constructor
    · rintro ⟨_, _, same, gains, other⟩
      cases same
      refine ⟨gains.elim (fun gained => ?_) fun ⟨_, same, gained⟩ => ?_, other⟩
      · exact absurd gained (Statement.not_gainsBlocks_of_takesElse guarded)
      · cases same
        exact gained
    · exact fun ⟨inner, other⟩ => ⟨_, _, rfl, .inr ⟨_, rfl, inner⟩, other⟩
  · simp only [guarded, if_false, Bool.false_eq_true, false_or]
    by_cases isOpen : consequent.reread.endsOpen = true
    · -- The `else` goes into the consequent, and the statement has none left.
      simp only [isOpen, if_true]
      constructor
      · rintro ⟨_, _, same, -⟩
        cases same
      · rintro ⟨⟨closed, inner⟩, -⟩
        rw [Statement.endsOpen_reread (first.mp inner), closed] at isOpen
        cases isOpen
    · simp only [isOpen]
      constructor
      · rintro ⟨_, _, same, gains, other⟩
        cases same
        have inner : consequent.GainsBlocks consequent.reread :=
          gains.elim id fun ⟨_, same, gained⟩ =>
            (Statement.not_gainsBlocks_wrapped same gained).elim
        rw [Statement.endsOpen_reread (first.mp inner), Bool.not_eq_true] at isOpen
        exact ⟨⟨isOpen, inner⟩, other⟩
      · exact fun ⟨⟨_, inner⟩, other⟩ => ⟨_, _, rfl, .inl inner, other⟩

mutual

/-- A statement comes back from its row, but for blocks around consequents, if and only if each
`else` stays with its `if`. -/
theorem Statement.gainsBlocks_reread_iff :
    ∀ s : Statement Text, s.GainsBlocks s.reread ↔ s.keepsElse = true
  | .if test consequent none => by
    simp [Statement.GainsBlocks, Statement.reread, Statement.keepsElse,
      Statement.gainsBlocks_reread_iff consequent]
  | .if _ consequent (some alternate) =>
    Statement.gainsBlocks_ifElse_iff (Statement.gainsBlocks_reread_iff consequent)
      (Statement.gainsBlocks_reread_iff alternate)
  | .block body => by
    simp [Statement.GainsBlocks, Statement.reread, Statement.keepsElse,
      Statement.gainsBlocksList_reread_iff body]
  | .for _ _ _ body | .forIn _ _ body | .forOf _ _ body | .while _ body | .doWhile body _ => by
    simp [Statement.GainsBlocks, Statement.reread, Statement.keepsElse,
      Statement.gainsBlocks_reread_iff body]
  | .declaration _ | .exportDeclaration _ | .exportList _ _ | .importList _ _ | .expression _
  | .return _ | .break | .continue | .throw _ | .try _ _ _ | .switch _ _ | .empty => by
    simp [Statement.GainsBlocks, Statement.reread, Statement.keepsElse]

theorem Statement.gainsBlocksList_reread_iff :
    ∀ ss : List (Statement Text), Statement.GainsBlocksList ss (Statement.rereadList ss) ↔
      Statement.keepsElseList ss = true
  | [] => by simp [Statement.GainsBlocksList, Statement.rereadList, Statement.keepsElseList]
  | s :: ss => by
    simp [Statement.GainsBlocksList, Statement.rereadList, Statement.keepsElseList,
      Statement.gainsBlocks_reread_iff s, Statement.gainsBlocksList_reread_iff ss]

end

end LibraryDescriptor
