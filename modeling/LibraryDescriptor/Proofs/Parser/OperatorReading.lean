import LibraryDescriptor.Proofs.Parser.Reading

/-!
# Operator trees are read as they were laid out

* `ReadsAccess.call`, `ReadsChain.operation`, … — how each kind of node is read, if its parts are.
* `Expression.Reads` — the levels of the grammar that read the layout of an expression.
* `OperatorTree.reads` — every operator tree is read at its own level and at all looser ones.
-/

namespace LibraryDescriptor

open Grammar

section Nodes

variable {layout inside : Layout} {e left right property : Expression Text}
  {es : List (Expression Text)} {allowCall : Bool}

/-! ## Operands -/

theorem ReadsAccess.atom {x y : Lexeme} (read : x.read = y) (atom : Atom y e) :
    ReadsAccess allowCall [.lexeme x] e := by
  rintro d _ t rest finish ⟨u, _, rfl, lexeme, -, rfl⟩ flat enough
  rw [List.length_singleton] at enough
  obtain ⟨d, rfl⟩ := Nat.exists_eq_add_of_le' (show 1 ≤ d by omega)
  have next : (Tokens.mk ([u] ++ t :: rest) finish).current? = some y :=
    congrArg some (lexeme.trans read)
  have noNew : y ≠ .keyword .new := by
    rintro rfl
    cases atom
  refine ⟨d + 1, by omega, access_primary ?_ (primary_atom next atom)⟩
  rw [next]
  exact fun same => noNew (Option.some.inj same)

theorem ReadsAccess.array {elems : List (Option (Expression Text))}
    (each : ∀ e, some e ∈ elems → ReadsItem (e.within Level.assignment) e) :
    ReadsAccess allowCall (Layout.brackets (elementRow elems)) (.array elems) := by
  intro d ts t rest finish spells flat enough
  obtain ⟨opens, as, closes, rfl, isOpen, inner, isClose, closeFlat⟩ := spells.brackets
  simp only [List.length_cons, List.length_append, List.length_nil] at enough ⊢
  obtain ⟨d, rfl⟩ := Nat.exists_eq_add_of_le' (show 1 ≤ d by omega)
  rw [List.cons_append, List.append_assoc, List.singleton_append]
  have opened : (Tokens.mk (opens :: (as ++ closes :: t :: rest)) finish).current? =
      some (.punctuator .bracketOpen) := congrArg some isOpen
  have items : elements d ⟨as ++ closes :: t :: rest, finish⟩ = .ok (elems, ⟨t :: rest, finish⟩) :=
    elements_items each inner isClose (List.forall_mem_cons.mpr ⟨closeFlat, flat⟩) (by omega)
  exact ⟨d + 1, by omega, access_primary (by rw [opened]; nofun) (primary_array opened items)⟩

/-- A name behind a point is read whether it is reserved or not. -/
theorem expectPropertyName_name {name : Text} {t : Token} {rest : List Token} {finish : Mark}
    (lexeme : t.lexeme = (Lexeme.identifier name).read) :
    Parser.expectPropertyName ⟨t :: rest, finish⟩ = .ok (name, ⟨rest, finish⟩) := by
  have next : (Tokens.mk (t :: rest) finish).current? = some (Lexeme.identifier name).read :=
    congrArg some lexeme
  rw [Parser.expectPropertyName, Parser.bind_ok Parser.current?_run, next]
  cases found : Keyword.ofText? name with
  | none =>
    simp only [Lexeme.read, found]
    rfl
  | some k =>
    simp only [Lexeme.read, found]
    rw [Parser.bind_ok Parser.advance_run, Keyword.spelling_of_ofText? found]
    rfl

theorem ReadsAccess.dotted (reads : ReadsAccess allowCall layout e) (name : Text) :
    ReadsAccess allowCall (layout ++ (Layout.mark .dot ++ Layout.name name))
      (.member e (.identifier name) false) := by
  intro d ts t rest finish spells flat enough
  obtain ⟨as, _, rfl, first, access⟩ := spells.append
  obtain ⟨_, _, rfl, point, u, _, rfl, lexeme, uFlat, rfl⟩ := access.append
  obtain ⟨dot, rfl, isDot, dotFlat⟩ := point.mark
  simp only [List.length_append, List.length_cons, List.length_nil] at enough ⊢
  rw [List.append_assoc]
  obtain ⟨d', deep, found⟩ := @reads d as dot (u :: t :: rest) finish first
    (List.forall_mem_cons.mpr ⟨dotFlat, List.forall_mem_cons.mpr ⟨uFlat, flat⟩⟩) (by omega)
  obtain ⟨d', rfl⟩ := Nat.exists_eq_add_of_le' (show 1 ≤ d' by omega)
  exact ⟨d', by omega, found.trans
    (tail_dot (congrArg some isDot) (expectPropertyName_name lexeme))⟩

theorem ReadsAccess.computed (reads : ReadsAccess allowCall layout e)
    (inner : ReadsExpression inside property) :
    ReadsAccess allowCall (layout ++ Layout.brackets inside) (.member e property true) := by
  intro d ts t rest finish spells flat enough
  obtain ⟨as, _, rfl, first, access⟩ := spells.append
  obtain ⟨opens, bs, closes, rfl, isOpen, second, isClose, closeFlat⟩ := access.brackets
  have openFlat := access.flat opens List.mem_cons_self
  simp only [List.length_append, List.length_cons, List.length_nil] at enough ⊢
  rw [List.append_assoc, List.cons_append, List.append_assoc, List.singleton_append]
  have closesFlat : ∀ u ∈ closes :: t :: rest, u.IsFlat :=
    List.forall_mem_cons.mpr ⟨closeFlat, flat⟩
  obtain ⟨d', deep, found⟩ := @reads d as opens (bs ++ closes :: t :: rest) finish first
    (List.forall_mem_cons.mpr ⟨openFlat, second.flat_append closesFlat⟩) (by omega)
  obtain ⟨d', rfl⟩ := Nat.exists_eq_add_of_le' (show 1 ≤ d' by omega)
  have value := @inner d' bs closes (t :: rest) finish second closesFlat (by rw [isClose]; decide)
    (by omega)
  have opened : (Tokens.mk (opens :: (bs ++ closes :: t :: rest)) finish).current? =
      some (.punctuator .bracketOpen) := congrArg some isOpen
  exact ⟨d', by omega, found.trans (tail_bracket opened value (congrArg some isClose))⟩

/-- Arguments between parentheses. -/
theorem arguments_parens {item : Expression Text → Layout} {ts : List Token}
    (each : ∀ e ∈ es, ReadsItem (item e) e)
    (spells : (Layout.parens (Layout.commas (es.map item))).Spells ts) :
    ∃ opens more, ts = opens :: more ∧ opens.lexeme = .punctuator .parenOpen ∧
      ∀ {d : Nat} {rest : List Token} {finish : Mark}, (∀ u ∈ rest, u.IsFlat) →
        16 * ts.length ≤ d + 24 →
          arguments d ⟨more ++ rest, finish⟩ = .ok (es, ⟨rest, finish⟩) := by
  obtain ⟨opens, as, closes, rfl, isOpen, inner, isClose, closeFlat⟩ := spells.parens
  refine ⟨opens, as ++ [closes], rfl, isOpen, fun flat enough => ?_⟩
  simp only [List.length_cons, List.length_append, List.length_nil] at enough
  rw [List.append_assoc, List.singleton_append]
  exact arguments_items each inner isClose (List.forall_mem_cons.mpr ⟨closeFlat, flat⟩) (by omega)

theorem ReadsAccess.call {item : Expression Text → Layout} (reads : ReadsAccess true layout e)
    (each : ∀ e ∈ es, ReadsItem (item e) e) :
    ReadsAccess true (layout ++ Layout.parens (Layout.commas (es.map item))) (.call e es) := by
  intro d ts t rest finish spells flat enough
  obtain ⟨as, bs, rfl, first, second⟩ := spells.append
  obtain ⟨opens, more, rfl, isOpen, items⟩ := arguments_parens each second
  simp only [List.length_append, List.length_cons] at enough items ⊢
  rw [List.append_assoc, List.cons_append]
  obtain ⟨d', deep, found⟩ := @reads d as opens (more ++ t :: rest) finish first
    (second.flat_append flat) (by omega)
  obtain ⟨d', rfl⟩ := Nat.exists_eq_add_of_le' (show 1 ≤ d' by omega)
  exact ⟨d', by omega, found.trans (tail_call (congrArg some isOpen) (items flat (by omega)))⟩

theorem ReadsAccess.new {item : Expression Text → Layout} (reads : ReadsAccess false layout e)
    (leads : layout.Leads Lexeme.startsExpression) (each : ∀ e ∈ es, ReadsItem (item e) e) :
    ReadsAccess allowCall (Layout.word .new ++ Layout.space ++ layout ++
      Layout.parens (Layout.commas (es.map item))) (.new e es) := by
  intro d ts t rest finish spells flat enough
  obtain ⟨_, bs, rfl, outer, second⟩ := spells.append
  obtain ⟨_, as, rfl, word, first⟩ := outer.append
  obtain ⟨new, _, rfl, isNew, -, rfl⟩ := word
  obtain ⟨opens, more, rfl, isOpen, items⟩ := arguments_parens each second
  simp only [List.length_append, List.length_cons, List.length_nil] at enough items ⊢
  obtain ⟨d, rfl⟩ := Nat.exists_eq_add_of_le' (show 1 ≤ d by omega)
  obtain ⟨d', deep, found⟩ := @reads d as opens (more ++ t :: rest) finish first
    (second.flat_append flat) (by omega)
  obtain ⟨d', rfl⟩ := Nat.exists_eq_add_of_le' (show 1 ≤ d' by omega)
  -- The parenthesis behind the callee is not its own: where no call is allowed,
  -- the tail stops there.
  have callee : access d false ⟨as ++ opens :: (more ++ t :: rest), finish⟩ =
      .ok (e, ⟨opens :: (more ++ t :: rest), finish⟩) := by
    rw [found]
    refine tail_stop (fun p member same => ?_) nofun
    have isMark : Lexeme.punctuator .parenOpen = .punctuator p :=
      isOpen.symm.trans (Option.some.inj same)
    cases isMark
    simp at member
  rw [List.append_assoc, List.append_assoc, List.singleton_append, List.cons_append]
  have next : (Tokens.mk (new :: (as ++ opens :: (more ++ t :: rest))) finish).current? =
      some (.keyword .new) := congrArg some isNew
  have noDot := first.other leads (opens :: (more ++ t :: rest)) finish .dot (by simp)
  have value := new_arguments next noDot callee (congrArg some isOpen) (items flat (by omega))
  exact ⟨d + 1, by omega, access_new next value⟩

/-! ## Operators in front of and behind an operand -/

theorem Reads.operator {op : UnaryOperator} (known : UnaryOperator.ofLexeme? op.lexeme = some op)
    (reads : ReadsUnary layout e) : ReadsUnary (layoutUnary op layout) (.unary op e) := by
  intro d ts t rest finish spells flat loose enough
  obtain ⟨u, as, rfl, lexeme, argument⟩ : ∃ u as, ts = u :: as ∧ u.lexeme = op.lexeme ∧
      layout.Spells as := by
    obtain ⟨_, as, rfl, ⟨u, gap, rfl, lexeme, -, space⟩, argument⟩ := spells.append
    have nothing : gap = [] := by
      revert space
      split <;> exact id
    rw [nothing]
    exact ⟨u, as, rfl, lexeme.trans (UnaryOperator.isSymbol known).read, argument⟩
  rw [List.length_cons] at enough
  obtain ⟨d, rfl⟩ := Nat.exists_eq_add_of_le' (show 1 ≤ d by omega)
  have found : (Tokens.mk (u :: as ++ t :: rest) finish).current?.bind UnaryOperator.ofLexeme? =
      some op := by
    rw [← known, ← lexeme]
    rfl
  exact unary_operator found (reads argument flat loose (by omega))

theorem Reads.updateBefore {op : UpdateOperator}
    (known : UpdateOperator.ofLexeme? op.lexeme = some op) (target : isTarget e = true)
    (reads : ReadsUnary layout e) :
    ReadsUnary (.lexeme op.lexeme :: layout) (.update op true e) := by
  rintro d _ t rest finish ⟨u, as, rfl, lexeme, -, argument⟩ flat loose enough
  rw [(UpdateOperator.isSymbol known).read] at lexeme
  rw [List.length_cons] at enough
  obtain ⟨d, rfl⟩ := Nat.exists_eq_add_of_le' (show 1 ≤ d by omega)
  have next : (Tokens.mk (u :: as ++ t :: rest) finish).current? = some op.lexeme :=
    congrArg some lexeme
  have other : UnaryOperator.ofLexeme? op.lexeme = none := by
    cases op with
    | other => cases known
    | _ => rfl
  refine unary_updateBefore ?_ ?_ (reads argument flat loose (by omega)) target
  · rw [next, Option.bind_some, other]
  · rw [next, Option.bind_some, known]

theorem ReadsAccess.updateBehind {op : UpdateOperator}
    (known : UpdateOperator.ofLexeme? op.lexeme = some op) (target : isTarget e = true)
    (reads : ReadsAccess true layout e) (leads : layout.Leads Lexeme.startsOperand) :
    ReadsUnary (layout ++ [.lexeme op.lexeme]) (.update op false e) := by
  intro d ts t rest finish spells flat loose enough
  obtain ⟨as, _, rfl, first, u, _, rfl, lexeme, stepFlat, rfl⟩ := spells.append
  rw [(UpdateOperator.isSymbol known).read] at lexeme
  obtain ⟨pos, x, starts, next⟩ := first.head leads
  obtain ⟨noUnary, noUpdate⟩ := Lexeme.not_operator_of_startsOperand starts
  rw [List.length_append, List.length_singleton] at enough
  obtain ⟨d, rfl⟩ := Nat.exists_eq_add_of_le' (show 2 ≤ d by omega)
  obtain ⟨d', deep, found⟩ := @reads d as u (t :: rest) finish first
    (List.forall_mem_cons.mpr ⟨stepFlat, flat⟩) (by omega)
  obtain ⟨d', rfl⟩ := Nat.exists_eq_add_of_le' (show 1 ≤ d' by omega)
  have value : leftHandSide (d + 1) ⟨as ++ u :: t :: rest, finish⟩ =
      .ok (e, ⟨u :: t :: rest, finish⟩) := by
    rw [leftHandSide_succ, found]
    refine tail_stop (fun p member same => ?_) fun _ same => ?_
    · have isMark : op.lexeme = .punctuator p := lexeme.symm.trans (Option.some.inj same)
      rw [isMark] at known
      simp only [List.mem_cons, List.not_mem_nil, or_false] at member
      rcases member with rfl | rfl | rfl <;> cases known
    · have isMark : op.lexeme = .punctuator .parenOpen := lexeme.symm.trans (Option.some.inj same)
      rw [isMark] at known
      cases known
  have step : (Tokens.mk (u :: t :: rest) finish).current?.bind UpdateOperator.ofLexeme? =
      some op := by
    rw [← known, ← lexeme]
    rfl
  rw [List.append_assoc, List.singleton_append]
  refine unary_updateBehind ?_ ?_ value step stepFlat.sameLine target
  · rw [next, Option.bind_some, noUnary]
  · rw [next, Option.bind_some, noUpdate]

/-! ## Chains -/

def BinaryOperator.chain (op : BinaryOperator) : Chain where
  precedence := op.precedence?.getD 0
  bound := if op == .power then op.precedence?.getD 0 else op.precedence?.getD 0 + 1
  logicals := Logicals.none.combine .none op

/-- An operator is read between two operands that it binds less tightly than they do themselves. -/
theorem ReadsChain.operation {op : BinaryOperator} {first second : Chain} {bare any : Prop}
    (known : BinaryOperator.ofLexeme? op.lexeme = some op)
    (readsLeft : ReadsChain first bare layout left)
    (readsRight : ReadsChain second any inside right)
    (leads : inside.Leads Lexeme.startsExpression)
    (holdsLeft : op.chain.precedence ≤ first.precedence)
    (belowLeft : op.chain.precedence < first.bound) (power : op = .power → bare)
    (holdsRight : op.chain.bound ≤ second.precedence) (belowRight : op.chain.bound ≤ second.bound)
    (logicals : first.logicals.combine second.logicals op = op.chain.logicals) :
    ReadsChain op.chain False (Layout.spaced op.lexeme layout inside)
      (if op.isLogical then .logical op left right else .binary op left right) := by
  intro d least ts t rest finish spells flat tight loose enough
  obtain ⟨as, u, bs, rfl, spellsLeft, lexeme, opFlat, spellsRight⟩ :=
    spells.spaced (BinaryOperator.isSymbol known)
  have holds : u.lexeme.hold = 3 + op.chain.precedence := by
    rw [lexeme]
    exact Lexeme.hold_operator known
  have unmixed : op.chain.logicals.mixed = false := by cases op <;> rfl
  rw [List.length_append, List.length_cons] at enough ⊢
  rw [List.append_assoc, List.cons_append]
  obtain ⟨d', isUnary, deep, unaryFree, found⟩ := @readsLeft d least as u (bs ++ t :: rest) finish
    spellsLeft (List.forall_mem_cons.mpr ⟨opFlat, spellsRight.flat_append flat⟩) (by omega)
    (by omega) (by omega)
  obtain ⟨d', rfl⟩ := Nat.exists_eq_add_of_le' (show 1 ≤ d' by omega)
  have next : (Tokens.mk (u :: (bs ++ t :: rest)) finish).current?.bind BinaryOperator.ofLexeme? =
      some op := by
    rw [← known, ← lexeme]
    rfl
  have value := @ReadsChain.binary inside right second any readsRight leads
    d' op.chain.bound bs rest
    t finish spellsRight flat holdsRight loose belowRight (by omega)
  -- The loop goes on behind the right operand with the whole operation as its new left operand.
  refine ⟨d', false, by omega, nofun, found.trans ?_⟩
  rw [← logicals] at unmixed ⊢
  exact climb_operator next tight (fun _ => rfl) (fun same => unaryFree (power same)) value unmixed

/-! ## Choices, assignments and sequences -/

theorem ReadsChain.choice {chain : Chain} {bare : Prop} {test : Layout}
    (readsTest : ReadsChain chain bare test e) (leads : test.Leads Lexeme.startsExpression)
    (tight : 1 ≤ chain.precedence) (below : 1 ≤ chain.bound)
    (first : ReadsAssignment layout left) (second : ReadsAssignment inside right) :
    ReadsConditional (Layout.spaced (.punctuator .question) test
      (Layout.spaced (.punctuator .colon) layout inside)) (.conditional e left right) := by
  intro d ts t rest finish spells flat loose enough
  obtain ⟨as, question, _, rfl, spellsTest, isQuestion, questionFlat, branches⟩ :=
    spells.spaced (Lexeme.isSymbol_mark (by decide))
  have branchesFlat := branches.flat_append flat
  obtain ⟨bs, colon, cs, rfl, spellsFirst, isColon, colonFlat, spellsSecond⟩ :=
    branches.spaced (Lexeme.isSymbol_mark (by decide))
  simp only [List.length_append, List.length_cons] at enough
  obtain ⟨d, rfl⟩ := Nat.exists_eq_add_of_le' (show 1 ≤ d by omega)
  rw [List.append_assoc, List.cons_append]
  have tested : Grammar.binary d 1 true
      ⟨as ++ question :: (bs ++ colon :: cs ++ t :: rest), finish⟩ = _ :=
    readsTest.binary leads spellsTest (List.forall_mem_cons.mpr ⟨questionFlat, branchesFlat⟩) tight
      (by rw [isQuestion]; decide) below (by omega)
  have consequent := @first d bs colon (cs ++ t :: rest) finish spellsFirst
    (List.forall_mem_cons.mpr ⟨colonFlat, spellsSecond.flat_append flat⟩)
    (by rw [isColon]; decide) (by omega)
  have alternate := @second d cs t rest finish spellsSecond flat (by omega) (by omega)
  rw [List.append_assoc, List.cons_append] at tested ⊢
  exact conditional_choice tested (congrArg some isQuestion) consequent (congrArg some isColon)
    alternate

theorem Reads.target {op : AssignmentOperator}
    (known : AssignmentOperator.ofLexeme? op.lexeme = some op) (target : isTarget left = true)
    (first : ReadsTarget layout left) (second : ReadsAssignment inside right) :
    ReadsAssignment (Layout.spaced op.lexeme layout inside) (.assignment op left right) := by
  intro d ts t rest finish spells flat loose enough
  have noArrow := arrowAhead_flat (spells.flat_append flat)
  obtain ⟨as, u, bs, rfl, spellsLeft, lexeme, opFlat, spellsRight⟩ :=
    spells.spaced (AssignmentOperator.isSymbol known)
  rw [List.length_append, List.length_cons] at enough
  rw [List.append_assoc, List.cons_append] at noArrow ⊢
  obtain ⟨d, rfl⟩ := Nat.exists_eq_add_of_le' (show 1 ≤ d by omega)
  have found : (Tokens.mk (u :: (bs ++ t :: rest)) finish).current?.bind
      AssignmentOperator.ofLexeme? = some op := by
    rw [← known, ← lexeme]
    rfl
  have stops : u.lexeme.hold ≤ 2 := by
    rw [lexeme]
    cases op with
    | other => cases known
    | _ => decide
  have value := @first d as u (bs ++ t :: rest) finish spellsLeft
    (List.forall_mem_cons.mpr ⟨opFlat, spellsRight.flat_append flat⟩) stops (by omega)
  exact assignment_target noArrow value target found (second spellsRight flat loose (by omega))

theorem Reads.sequence {item : Expression Text → Layout} {e' : Expression Text}
    (each : ∀ k ∈ e :: e' :: es, ReadsItem (item k) k) :
    ReadsExpression (Layout.commas ((e :: e' :: es).map item)) (.sequence (e :: e' :: es)) := by
  intro d ts t rest finish spells flat loose enough
  obtain ⟨reads, later⟩ := List.forall_mem_cons.mp each
  obtain ⟨as, comma, bs, rfl, first, isComma, commaFlat, more⟩ := spells.commas
  obtain ⟨pos, -⟩ := first.head reads.leads
  rw [List.length_append, List.length_cons] at enough
  obtain ⟨d, rfl⟩ := Nat.exists_eq_add_of_le' (show 1 ≤ d by omega)
  rw [List.append_assoc, List.cons_append]
  have item := reads.beforeComma d finish first isComma commaFlat
    (more.flat_append flat) (by omega)
  exact expression_sequence item (congrArg some isComma)
    (moreExpressions_items later isComma more loose flat (by omega))

end Nodes

/-! ## Levels of an expression -/

theorem ReadsChain.mono {chain : Chain} {bare strict : Prop} {layout : Layout}
    {e : Expression Text} (reads : ReadsChain chain bare layout e) (weaken : strict → bare) :
    ReadsChain chain strict layout e := by
  intro d least ts t rest finish spells flat tight loose enough
  obtain ⟨d', isUnary, deep, unaryFree, found⟩ := reads spells flat tight loose enough
  exact ⟨d', isUnary, deep, fun holds => unaryFree (weaken holds), found⟩

theorem ReadsChain.assignment {chain : Chain} {bare : Prop} {layout : Layout}
    {e : Expression Text} (reads : ReadsChain chain bare layout e)
    (leads : layout.Leads Lexeme.startsExpression) (tight : 1 ≤ chain.precedence)
    (below : 1 ≤ chain.bound) : ReadsAssignment layout e :=
  (reads.target leads tight below).conditional.assignment leads

def Expression.chain : Expression Text → Chain
  | .binary op _ _ | .logical op _ _ => op.chain
  | _ => .operand

/-- The layout of an expression is read at its own level and at all looser ones. -/
structure Expression.Reads (e : Expression Text) : Prop where
  starts : e.Starts
  expression : ReadsExpression (e.pieces 0 false) e
  assignment : Level.assignment ≤ e.rank false → ReadsAssignment (e.pieces 0 false) e
  chain : Level.nullish ≤ e.rank false →
    ReadsChain e.chain (Level.postfixed ≤ e.rank false) (e.pieces 0 false) e
  unary : Level.unary ≤ e.rank false → ReadsUnary (e.pieces 0 false) e
  access : Level.call ≤ e.rank false → ∀ allowCall, (allowCall = false → containsCall e = false) →
    ReadsAccess allowCall (e.pieces 0 false) e

namespace Expression.Reads

variable {e : Expression Text} {required : Nat}

theorem ofExpression (tree : e.OperatorTree) (reads : ReadsExpression (e.pieces 0 false) e)
    (loose : e.rank false < Level.assignment) : e.Reads where
  starts := tree.starts
  expression := reads
  assignment tight := absurd loose (Nat.not_lt.mpr tight)
  chain tight := absurd (Nat.lt_trans loose (by decide)) (Nat.not_lt.mpr tight)
  unary tight := absurd (Nat.lt_trans loose (by decide)) (Nat.not_lt.mpr tight)
  access tight := absurd (Nat.lt_trans loose (by decide)) (Nat.not_lt.mpr tight)

theorem ofAssignment (tree : e.OperatorTree) (reads : ReadsAssignment (e.pieces 0 false) e)
    (loose : e.rank false < Level.nullish) : e.Reads where
  starts := tree.starts
  expression := LibraryDescriptor.Reads.expression reads tree.starts.expression
  assignment _ := reads
  chain tight := absurd loose (Nat.not_lt.mpr tight)
  unary tight := absurd (Nat.lt_trans loose (by decide)) (Nat.not_lt.mpr tight)
  access tight := absurd (Nat.lt_trans loose (by decide)) (Nat.not_lt.mpr tight)

theorem ofChain {bare : Prop} (tree : e.OperatorTree)
    (reads : ReadsChain e.chain bare (e.pieces 0 false) e) (tight : 1 ≤ e.chain.precedence)
    (below : 1 ≤ e.chain.bound) (loose : e.rank false < Level.unary) : e.Reads where
  starts := tree.starts
  expression := (reads.assignment tree.starts.expression tight below).expression
    tree.starts.expression
  assignment _ := reads.assignment tree.starts.expression tight below
  chain _ := reads.mono fun tight => absurd (Nat.lt_trans loose (by decide)) (Nat.not_lt.mpr tight)
  unary tight := absurd loose (Nat.not_lt.mpr tight)
  access tight := absurd (Nat.lt_trans loose (by decide)) (Nat.not_lt.mpr tight)

theorem ofUnary (tree : e.OperatorTree) (reads : ReadsUnary (e.pieces 0 false) e)
    (same : e.chain = .operand)
    (access : Level.call ≤ e.rank false → ∀ allowCall,
      (allowCall = false → containsCall e = false) →
      ReadsAccess allowCall (e.pieces 0 false) e) : e.Reads := by
  have starts := tree.starts
  have chain := reads.chain starts.expression
  have value := chain.assignment starts.expression (by decide) (by decide)
  refine ⟨starts, value.expression starts.expression, fun _ => value, fun _ => ?_, fun _ => reads,
    access⟩
  rw [same]
  exact chain.mono starts.operand

theorem ofAccess (tree : e.OperatorTree) (tight : Level.postfixed ≤ e.rank false)
    (same : e.chain = .operand)
    (reads : ∀ allowCall, (allowCall = false → containsCall e = false) →
      ReadsAccess allowCall (e.pieces 0 false) e) : e.Reads :=
  ofUnary tree ((reads true nofun).unary (tree.starts.operand tight)) same fun _ => reads

/-! ### Operands of other expressions -/

theorem item (reads : e.Reads) : ReadsItem (e.within Level.assignment) e := by
  refine ⟨reads.starts.within, ?_⟩
  refine within_cases (motive := (ReadsAssignment · e)) reads.assignment ?_
  have leads := Layout.leads_parens (e.pieces 0 false)
  exact ((((reads.expression.parens true).unary leads).chain leads.expression).assignment
    leads.expression (by decide) (by decide))

theorem withinUnary (reads : e.Reads) : ReadsUnary (e.within Level.unary) e :=
  within_cases (motive := (ReadsUnary · e)) reads.unary
    ((reads.expression.parens true).unary (Layout.leads_parens _))

theorem withinAccess {allowCall : Bool} (reads : e.Reads) (tight : Level.call ≤ required)
    (callee : allowCall = false → required ≤ e.rank false → containsCall e = false) :
    ReadsAccess allowCall (e.within required) e :=
  within_cases (motive := (ReadsAccess allowCall · e))
    (fun bare => reads.access (Nat.le_trans tight bare) allowCall fun noCall => callee noCall bare)
    (reads.expression.parens allowCall)

theorem withinTarget (reads : e.Reads) : ReadsTarget (e.within Level.call) e := by
  have leads : (e.within Level.call).Leads Lexeme.startsOperand :=
    reads.starts.withinTight (by decide)
  have access : ReadsAccess true (e.within Level.call) e := reads.withinAccess (Nat.le_refl _) nofun
  exact ((access.unary leads).chain leads.expression).target leads.expression
    (by decide) (by decide)

/-- An operand of a chain makes the chain of its own operator, or none in parentheses. -/
theorem withinChain (reads : e.Reads) (tight : Level.nullish ≤ required) :
    required ≤ e.rank false ∧
        ReadsChain e.chain (Level.postfixed ≤ e.rank false) (e.within required) e ∨
      ReadsChain .operand True (e.within required) e := by
  by_cases bare : required ≤ e.rank false
  · rw [within_of_le bare]
    exact .inl ⟨bare, reads.chain (Nat.le_trans tight bare)⟩
  · rw [within_of_lt (Nat.lt_of_not_le bare)]
    have leads := Layout.leads_parens (e.pieces 0 false)
    exact .inr ((((reads.expression.parens true).unary leads).chain leads.expression).mono
      fun _ => leads)

end Expression.Reads

/-! ## Operators and their operands -/

/-- Where an operator stands among the others. -/
structure BinaryOperator.Places (op : BinaryOperator) : Prop where
  pos : 1 ≤ op.chain.precedence
  level : op.level?.getD 0 = max 3 (op.chain.precedence + 1)
  power : op = .power → op.chain.precedence = 12 ∧ op.chain.bound = 12
  other : op ≠ .power → op.chain.precedence ≤ 11 ∧ op.chain.bound = op.chain.precedence + 1
  nullish : op.chain.precedence = 1 → op = .nullish
  or : op.chain.precedence = 2 → op = .or
  logical : op.isLogical = true → op.chain.precedence ≤ 3
  plain : op.isLogical = false → 4 ≤ op.chain.precedence ∧ op.chain.logicals = .none

theorem BinaryOperator.places {op : BinaryOperator} (known : ofLexeme? op.lexeme = some op) :
    op.Places := by
  cases op with
  | other => cases known
  | _ => constructor <;> decide

namespace BinaryOperator.Places

variable {op inner : BinaryOperator}

theorem range (places : op.Places) :
    op.chain.precedence ≤ op.chain.bound ∧ op.chain.bound ≤ 12 := by
  by_cases power : op = .power
  · have := places.power power
    omega
  · have := places.other power
    omega

theorem few (places : op.Places) : op.chain.precedence ≤ 12 ∧ op.chain.bound ≤ 12 :=
  ⟨Nat.le_trans places.range.1 places.range.2, places.range.2⟩

theorem operandLevels (places : op.Places) :
    op = .power ∧ LibraryDescriptor.operandLevels op (op.level?.getD 0) = (15, 13) ∨
      op ≠ .power ∧ LibraryDescriptor.operandLevels op (op.level?.getD 0) =
        (max 3 (op.chain.precedence + 1), max 3 (op.chain.precedence + 1) + 1) := by
  by_cases power : op = .power
  · subst power
    exact .inl ⟨rfl, rfl⟩
  · rw [LibraryDescriptor.operandLevels, if_neg power, places.level]
    exact .inr ⟨power, rfl⟩

/-- Both operands have to bind as tightly as their operator, and no bound is out of reach. -/
theorem operandLevels_range (places : op.Places) :
    let levels := LibraryDescriptor.operandLevels op (op.level?.getD 0)
    let own := max 3 (op.chain.precedence + 1)
    own ≤ levels.1 ∧ levels.1 ≤ Level.always ∧ own ≤ levels.2 ∧ levels.2 ≤ Level.always := by
  have few := places.few
  simp only [Level.always]
  rcases places.operandLevels with ⟨-, levels⟩ | ⟨-, levels⟩ <;> rw [levels] <;> omega

theorem bound_pos (places : op.Places) : 1 ≤ op.chain.bound :=
  Nat.le_trans places.pos places.range.1

/-- An operator on the left of another one without parentheses binds at least as tightly. -/
theorem onLeft (places : op.Places) (placesInner : inner.Places)
    (tight : (LibraryDescriptor.operandLevels op (op.level?.getD 0)).1 ≤ inner.level?.getD 0)
    (apart : op = .or → inner ≠ .nullish) :
    op ≠ .power ∧ op.chain.precedence ≤ inner.chain.precedence ∧
      op.chain.precedence < inner.chain.bound := by
  have few := placesInner.few
  rw [placesInner.level] at tight
  rcases places.operandLevels with ⟨power, levels⟩ | ⟨noPower, levels⟩
  · rw [levels] at tight
    omega
  · rw [levels] at tight
    have ordered : op.chain.precedence ≤ inner.chain.precedence := by
      -- `??` and `||` share a level, so only there the levels do not tell.
      by_contra inverted
      have pos := placesInner.pos
      exact apart (places.or (by omega)) (placesInner.nullish (by omega))
    have other := places.other noPower
    by_cases power : inner = .power
    · have := placesInner.power power
      exact ⟨noPower, ordered, by omega⟩
    · have := placesInner.other power
      exact ⟨noPower, ordered, by omega⟩

/-- An operator on the right of another one without parentheses binds more tightly, except for
powers, which group to the right. -/
theorem onRight (places : op.Places) (placesInner : inner.Places)
    (tight : (LibraryDescriptor.operandLevels op (op.level?.getD 0)).2 ≤ inner.level?.getD 0) :
    op.chain.bound ≤ inner.chain.precedence ∧ op.chain.bound ≤ inner.chain.bound := by
  have few := places.few
  have rangeInner := placesInner.range
  rw [placesInner.level] at tight
  rcases places.operandLevels with ⟨power, levels⟩ | ⟨noPower, levels⟩
  · rw [levels] at tight
    omega
  · rw [levels] at tight
    have other := places.other noPower
    omega

end BinaryOperator.Places

/-- Logical operators that may stand side by side count as one. -/
theorem BinaryOperator.logicals_eq {op inner : BinaryOperator} (opLogical : op.isLogical = true)
    (innerLogical : inner.isLogical = true) {left right : Expression Text}
    (unmixed : mixesNullish op (.logical inner left right) = false) :
    inner.chain.logicals = op.chain.logicals := by
  cases op with
  | nullish | or | and =>
    cases inner with
    | nullish | or | and => first | rfl | cases unmixed
    | _ => cases innerLogical
  | _ => cases opLogical

namespace Expression.OperatorTree

variable {e : Expression Text} {op : BinaryOperator} {required : Nat}

/-- An expression that may stand in a chain is an operand, or it has an operator of its own. -/
theorem chain_cases (tree : e.OperatorTree) (tight : Level.nullish ≤ e.rank false) :
    e.chain = .operand ∨
      ∃ inner, BinaryOperator.ofLexeme? inner.lexeme = some inner ∧ e.chain = inner.chain ∧
        e.rank false = inner.level?.getD 0 ∧
        (inner.isLogical = false ∨
          inner.isLogical = true ∧ ∃ left right, e = .logical inner left right) := by
  cases tree with
  | assignment | conditional | sequence =>
    simp [rank, Level.assignment, Level.conditional, Level.sequence, Level.nullish] at tight
  | @binary inner _ _ known plain =>
    exact .inr ⟨inner, known, rfl, rank_binary_false, .inl plain⟩
  | @logical inner left right known isLogical =>
    exact .inr ⟨inner, known, rfl, rfl, .inr ⟨isLogical, left, right, rfl⟩⟩
  | _ => exact .inl rfl

/-- An operand is read on its own, or with its operator in the open. -/
theorem within_cases (tree : e.OperatorTree) (reads : e.Reads) (tight : Level.nullish ≤ required) :
    ReadsChain .operand (Level.postfixed ≤ required) (e.within required) e ∨
      ∃ inner, inner.Places ∧ required ≤ inner.level?.getD 0 ∧
        ReadsChain inner.chain False (e.within required) e ∧
        (inner.isLogical = false ∨ inner.isLogical = true ∧ required ≤ e.rank false ∧
          ∃ left right, e = .logical inner left right) := by
  rcases reads.withinChain tight with ⟨bare, reads⟩ | reads
  · rcases tree.chain_cases (Nat.le_trans tight bare) with
      same | ⟨inner, known, same, rank, isOpen⟩
    · rw [same] at reads
      exact .inl (reads.mono fun postfixed => Nat.le_trans postfixed bare)
    · rw [same] at reads
      refine .inr ⟨inner, BinaryOperator.places known, rank ▸ bare, reads.mono False.elim, ?_⟩
      exact isOpen.imp_right fun ⟨isLogical, shape⟩ => ⟨isLogical, bare, shape⟩
  · exact .inl (reads.mono fun _ => trivial)

/-- The logical operators that an operand has in the open go with its operator. -/
theorem logicals_absorbed {inner : BinaryOperator} (places : op.Places) (placesInner : inner.Places)
    (tight : max 3 (op.chain.precedence + 1) ≤ inner.level?.getD 0)
    (apart : mixesNullish op e = true → e.rank false < required)
    (isOpen : inner.isLogical = false ∨ inner.isLogical = true ∧ required ≤ e.rank false ∧
      ∃ left right, e = .logical inner left right) :
    inner.chain.logicals = .none ∨ inner.chain.logicals = op.chain.logicals := by
  rcases isOpen with plain | ⟨isLogical, bare, left, right, rfl⟩
  · exact .inl (placesInner.plain plain).2
  · cases opLogical : op.isLogical with
    | false =>
      have few := (places.plain opLogical).1
      have fewInner := placesInner.logical isLogical
      rw [placesInner.level] at tight
      omega
    | true =>
      refine .inr (@BinaryOperator.logicals_eq op inner opLogical isLogical left right ?_)
      by_contra mixes
      exact absurd (apart (by simpa using mixes)) (Nat.not_lt.mpr bare)

/-- The left operand of an operator takes part in its chain. -/
theorem readsLeft (tree : e.OperatorTree) (reads : e.Reads) (places : op.Places)
    (tight : (operandLevels op (op.level?.getD 0)).1 ≤ required)
    (apart : mixesNullish op e = true → e.rank false < required) :
    ∃ chain, ReadsChain chain (op = .power) (e.within required) e ∧
      op.chain.precedence ≤ chain.precedence ∧ op.chain.precedence < chain.bound ∧
      (chain.logicals = .none ∨ chain.logicals = op.chain.logicals) := by
  have few := places.few
  have chained := Nat.le_trans places.operandLevels_range.1 tight
  rcases tree.within_cases reads (Nat.le_trans (Nat.le_max_left ..) chained) with
    reads | ⟨inner, placesInner, bare, reads, isOpen⟩
  · refine ⟨.operand, reads.mono fun power => ?_, Nat.le_trans few.1 (by decide),
      Nat.lt_succ_of_le few.1, .inl rfl⟩
    subst power
    exact tight
  · have distinct : op = .or → inner ≠ .nullish := by
      rintro rfl rfl
      rcases isOpen with plain | ⟨-, isBare, left, right, rfl⟩
      · cases plain
      · exact absurd (apart rfl) (Nat.not_lt.mpr isBare)
    obtain ⟨noPower, ordered, below⟩ := places.onLeft placesInner (Nat.le_trans tight bare) distinct
    exact ⟨inner.chain, reads.mono noPower, ordered, below,
      logicals_absorbed places placesInner (Nat.le_trans chained bare) apart isOpen⟩

theorem readsRight (tree : e.OperatorTree) (reads : e.Reads) (places : op.Places)
    (tight : (operandLevels op (op.level?.getD 0)).2 ≤ required)
    (apart : mixesNullish op e = true → e.rank false < required) :
    ∃ chain any, ReadsChain chain any (e.within required) e ∧
      op.chain.bound ≤ chain.precedence ∧ op.chain.bound ≤ chain.bound ∧
      (chain.logicals = .none ∨ chain.logicals = op.chain.logicals) := by
  have few := places.few
  have chained := Nat.le_trans places.operandLevels_range.2.2.1 tight
  rcases tree.within_cases reads (Nat.le_trans (Nat.le_max_left ..) chained) with
    reads | ⟨inner, placesInner, bare, reads, isOpen⟩
  · exact ⟨.operand, _, reads, Nat.le_trans few.2 (by decide), Nat.le_trans few.2 (by decide),
      .inl rfl⟩
  · obtain ⟨ordered, below⟩ := places.onRight placesInner (Nat.le_trans tight bare)
    exact ⟨inner.chain, _, reads, ordered, below,
      logicals_absorbed places placesInner (Nat.le_trans chained bare) apart isOpen⟩

theorem logicals_combine {first second : Logicals}
    (left : first = .none ∨ first = op.chain.logicals)
    (right : second = .none ∨ second = op.chain.logicals) :
    first.combine second op = op.chain.logicals := by
  rcases left with rfl | rfl <;> rcases right with rfl | rfl <;>
    cases op <;> rfl

theorem readsOperation {left right : Expression Text} {m n : Nat} (firstTree : left.OperatorTree)
    (secondTree : right.OperatorTree) (first : left.Reads) (second : right.Reads)
    (known : BinaryOperator.ofLexeme? op.lexeme = some op)
    (tightLeft : (operandLevels op (op.level?.getD 0)).1 ≤ m)
    (tightRight : (operandLevels op (op.level?.getD 0)).2 ≤ n)
    (apartLeft : mixesNullish op left = true → left.rank false < m)
    (apartRight : mixesNullish op right = true → right.rank false < n) :
    ReadsChain op.chain False (Layout.spaced op.lexeme (left.within m) (right.within n))
      (if op.isLogical then .logical op left right else .binary op left right) := by
  have places := BinaryOperator.places known
  obtain ⟨_, readsLeft, holdsLeft, belowLeft, openLeft⟩ :=
    firstTree.readsLeft first places tightLeft apartLeft
  obtain ⟨_, _, readsRight, holdsRight, belowRight, openRight⟩ :=
    secondTree.readsRight second places tightRight apartRight
  exact .operation known readsLeft readsRight second.starts.within holdsLeft belowLeft id holdsRight
    belowRight (logicals_combine openLeft openRight)

theorem rank_lt_always (tree : e.OperatorTree) : e.rank false < Level.always := by
  cases tree with
  | @update _ _ inFront => cases inFront <;> simp [rank, Level.unary, Level.postfixed, Level.always]
  | binary known =>
    rw [rank_binary_false]
    exact Nat.lt_trans (BinaryOperator.level_lt_unary known) (by decide)
  | logical known => exact Nat.lt_trans (BinaryOperator.level_lt_unary known) (by decide)
  | _ =>
    simp [rank, Level.sequence, Level.assignment, Level.conditional, Level.unary, Level.call,
      Level.member, Level.primary, Level.always]

/-- Where an operator is not logical, a logical operand is looser than it. -/
theorem lt_of_mixesNullish (tree : e.OperatorTree) (places : op.Places)
    (plain : op.isLogical = false) (mixes : mixesNullish op e = true) :
    e.rank false < max 3 (op.chain.precedence + 1) := by
  cases tree with
  | @logical inner left right known isLogical =>
    have few := (places.plain plain).1
    have fewInner := (BinaryOperator.places known).logical isLogical
    rw [rank_logical, (BinaryOperator.places known).level]
    omega
  | _ => cases mixes

theorem le_logicalLevel (low : required ≤ Level.always) :
    required ≤ logicalLevel op required e := by
  unfold logicalLevel
  split
  · exact low
  · exact Nat.le_refl _

theorem lt_logicalLevel (tree : e.OperatorTree) (mixes : mixesNullish op e = true) :
    e.rank false < logicalLevel op required e := by
  rw [logicalLevel, if_pos mixes]
  exact tree.rank_lt_always

/-- Every operator tree is read at its own level and at all looser ones. -/
theorem reads (tree : e.OperatorTree) : e.Reads := by
  have primary : Level.postfixed ≤ Level.primary := by decide
  have member : Level.postfixed ≤ Level.member := by decide
  -- A node is read at its own level; the operands it needs tighter than they are stand in
  -- parentheses.
  induction tree with
  | identifier isName =>
    exact .ofAccess (.identifier isName) primary rfl fun _ _ =>
      .atom (Lexeme.read_identifier isName) .identifier
  | number spelling denotes =>
    exact .ofAccess (.number spelling denotes) primary rfl fun _ _ => .atom rfl (.number denotes)
  | string => exact .ofAccess .string primary rfl fun _ _ => .atom rfl .string
  | @boolean value =>
    cases value with
    | true => exact .ofAccess .boolean primary rfl fun _ _ => .atom rfl .true
    | false => exact .ofAccess .boolean primary rfl fun _ _ => .atom rfl .false
  | null => exact .ofAccess .null primary rfl fun _ _ => .atom rfl .null
  | this => exact .ofAccess .this primary rfl fun _ _ => .atom rfl .this
  | @array elements trees each =>
    refine .ofAccess (.array trees) primary rfl fun _ _ => ?_
    rw [pieces_array]
    exact .array fun e member => (each e member).item
  | @unary op argument known tree reads =>
    exact .ofUnary (.unary known tree) (reads.withinUnary.operator known) rfl
      fun tight => absurd tight (show ¬ Level.call ≤ Level.unary by decide)
  | @update op argument inFront known target tree reads =>
    cases inFront with
    | true =>
      exact .ofUnary (.update known target tree) (reads.withinUnary.updateBefore known target) rfl
        fun tight => absurd tight (show ¬ Level.call ≤ Level.unary by decide)
    | false =>
      have access : ReadsAccess true (argument.within Level.call) argument :=
        reads.withinAccess (Nat.le_refl _) nofun
      exact .ofUnary (.update known target tree)
        (access.updateBehind known target (reads.starts.withinTight (by decide))) rfl
        fun tight => absurd tight (show ¬ Level.call ≤ Level.postfixed by decide)
  | @binary op left right known plain first second readsFirst readsSecond =>
    have places := BinaryOperator.places known
    obtain ⟨ownLeft, -, ownRight, -⟩ := places.operandLevels_range
    have chain := first.readsOperation second readsFirst readsSecond known (Nat.le_refl _)
      (Nat.le_refl _)
      (fun mixes => Nat.lt_of_lt_of_le (first.lt_of_mixesNullish places plain mixes) ownLeft)
      (fun mixes => Nat.lt_of_lt_of_le (second.lt_of_mixesNullish places plain mixes) ownRight)
    rw [plain, ← pieces_binary] at chain
    refine .ofChain (.binary known plain first second) chain places.pos places.bound_pos ?_
    rw [rank_binary_false]
    exact BinaryOperator.level_lt_unary known
  | @logical op left right known isLogical first second readsFirst readsSecond =>
    have places := BinaryOperator.places known
    obtain ⟨-, lowLeft, -, lowRight⟩ := places.operandLevels_range
    have chain := first.readsOperation second readsFirst readsSecond known (le_logicalLevel lowLeft)
      (le_logicalLevel lowRight) first.lt_logicalLevel second.lt_logicalLevel
    rw [isLogical, ← pieces_logical] at chain
    exact .ofChain (.logical known isLogical first second) chain places.pos places.bound_pos
      (BinaryOperator.level_lt_unary known)
  | @assignment op left right known target first second readsFirst readsSecond =>
    exact .ofAssignment (.assignment known target first second)
      (readsFirst.withinTarget.target known target readsSecond.item.reads)
      (show Level.assignment < Level.nullish by decide)
  | @conditional test consequent alternate first second third readsTest readsFirst readsSecond =>
    have choice : ReadsConditional ((test.conditional consequent alternate).pieces 0 false)
        (test.conditional consequent alternate) := by
      rw [pieces_conditional]
      rcases first.within_cases readsTest (Nat.le_refl Level.nullish) with
        reads | ⟨inner, places, -, reads, -⟩
      · exact reads.choice readsTest.starts.within (by decide) (by decide) readsFirst.item.reads
          readsSecond.item.reads
      · exact reads.choice readsTest.starts.within places.pos places.bound_pos readsFirst.item.reads
          readsSecond.item.reads
    have tree := OperatorTree.conditional first second third
    exact .ofAssignment tree (choice.assignment tree.starts.expression)
      (show Level.conditional < Level.nullish by decide)
  | @call arguments callee tree trees readsCallee each =>
    have access : ReadsAccess true (callee.within Level.call) callee :=
      readsCallee.withinAccess (Nat.le_refl _) nofun
    refine .ofAccess (.call tree trees) (show Level.postfixed ≤ Level.call by decide) rfl
      fun allowCall noCall => ?_
    cases allowCall with
    -- A call is itself a call, so it is no bare callee of `new`.
    | false => cases noCall rfl
    | true =>
      rw [pieces_call]
      exact access.call fun e member => (each e member).item
  | @new arguments callee tree trees readsCallee each =>
    refine .ofAccess (.new tree trees) member rfl fun allowCall _ => ?_
    rw [pieces_new]
    refine ReadsAccess.new ?_ readsCallee.starts.within fun e member => (each e member).item
    refine readsCallee.withinAccess ?_ fun _ bare => ?_
    · split <;> decide
    · -- A callee with a call in it needs a level that no tree reaches, so it is never bare.
      by_contra calls
      rw [if_pos (by simpa using calls)] at bare
      exact absurd tree.rank_lt_always (Nat.not_lt.mpr bare)
  | @dotted name inner tree word reads =>
    refine .ofAccess (.dotted tree word) member rfl fun allowCall noCall => ?_
    rw [pieces_dotted]
    exact (reads.withinAccess inner.call_le_objectLevel fun isFalse _ => noCall isFalse).dotted name
  | @computed inner property tree second reads readsProperty =>
    refine .ofAccess (.computed tree second) member rfl fun allowCall noCall => ?_
    rw [pieces_computed]
    exact (reads.withinAccess inner.call_le_objectLevel fun isFalse _ => noCall isFalse).computed
      readsProperty.expression
  | @sequence expressions long trees each =>
    match expressions with
    | [] | [_] => simp at long
    | first :: second :: more =>
      refine .ofExpression (.sequence long trees) ?_
        (show Level.sequence < Level.assignment by decide)
      rw [pieces_sequence]
      exact Reads.sequence fun e member => (each e member).item

end Expression.OperatorTree

end LibraryDescriptor
