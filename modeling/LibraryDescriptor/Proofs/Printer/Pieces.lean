import LibraryDescriptor.Proofs.Syntax.Grammatical

/-!
# Layouts without failure and state

The printer fails on some trees, and it keeps a state: whether `in` needs parentheses. Where it does
not fail, the state behind a tree follows from the loops in the tree.

* `Expression.pieces`, `Statement.pieces` and their siblings — layouts as functions of a tree, of
  the level of its line and of the state in front of it.
* `Expression.Prints`, `Statement.Prints` — these are the layouts that the printer makes; one lemma
  for each kind of node.
-/

namespace LibraryDescriptor

/-- The state of the printer behind a tree with some loops with first clauses: each of them leaves
it off. -/
def past (noIn : Bool) (loops : Nat) : Bool := noIn && loops == 0

@[simp] theorem past_zero (noIn : Bool) : past noIn 0 = noIn := by simp [past]

@[simp] theorem past_past (noIn : Bool) (m n : Nat) : past (past noIn m) n = past noIn (m + n) := by
  cases noIn <;> cases m <;> cases n <;> simp [past]

/-- Behind a loop with a first clause the state is off. -/
@[simp] theorem past_one_add (noIn : Bool) (loops : Nat) : past noIn (1 + loops) = false := by
  simp [past, Nat.add_comm 1]

@[simp] theorem past_false (loops : Nat) : past false loops = false := rfl

/-- The binding level of an expression that is laid out in a state. An `in` in parentheses is as
tight as a primary expression. -/
def Expression.rank (noIn : Bool) : Expression Text → Nat
  | .identifier _ | .literal _ _ | .this | .array _ | .object _ | .function _ _ _ => Level.primary
  | .arrow _ _ | .arrowBlock _ _ | .assignment _ _ _ => Level.assignment
  | .unary _ _ | .update _ true _ => Level.unary
  | .update _ false _ => Level.postfixed
  | .binary op left right =>
    if op = .isIn && past noIn (left.tally 0 1 + right.tally 0 1) then Level.primary
    else op.level?.getD 0
  | .logical op _ _ => op.level?.getD 0
  | .conditional _ _ _ => Level.conditional
  | .call _ _ => Level.call
  | .new _ _ | .member _ _ _ => Level.member
  | .sequence _ => Level.sequence

section Rank

variable {noIn : Bool} {op : BinaryOperator} {left right : Expression Text}

theorem Expression.rank_binary : rank noIn (.binary op left right) =
    if op = .isIn && past noIn (left.tally 0 1 + right.tally 0 1) then Level.primary
    else op.level?.getD 0 := rfl

theorem Expression.rank_logical : rank noIn (.logical op left right) = op.level?.getD 0 := rfl

end Rank

def wrapOperand (op : BinaryOperator) (required : Nat) (child : Expression Text)
    (printed : Layout × Nat) : Layout :=
  wrap (if mixesNullish op child then Level.always else required) printed

def literalPieces (value : Literal) (raw : Option Text) : Layout :=
  match layoutLiteral value raw with
  | .ok lexeme => [.lexeme lexeme]
  | .error _ => []

def wrapBody (body : Expression Text) (printed : Layout × Nat) : Layout :=
  match body with
  | .object _ => Layout.parens (wrap Level.assignment printed)
  | _ => wrap Level.assignment printed

def wrapKey (key : Expression Text) (computed : Bool) (printed : Layout × Nat) : Layout :=
  match computed, key with
  | false, .identifier name => Layout.name name
  | false, .literal value raw => literalPieces value raw
  | _, _ => Layout.brackets (wrap Level.assignment printed)

def operation (op : BinaryOperator) (left right : Layout) : Layout :=
  left ++ Layout.space ++ (.lexeme op.lexeme :: Layout.space) ++ right

theorem layoutBinary_eq (op : BinaryOperator) (level : Nat) (left right : Layout) (noIn : Bool) :
    layoutBinary op level left right noIn =
      if op = .isIn && noIn then (Layout.parens (operation op left right), Level.primary)
      else (operation op left right, level) := rfl

def casesBraces (level : Nat) (lines : Layout) : Layout :=
  Layout.mark .braceOpen ++ lines ++ (.newline level :: Layout.mark .braceClose)

mutual

def Expression.pieces : Expression Text → Nat → Bool → Layout
  | .identifier name, _, _ => Layout.name name
  | .literal value raw, _, _ => literalPieces value raw
  | .this, _, _ => Layout.word .this
  | .array elements, level, noIn =>
    layoutArray (Expression.piecesElements elements level noIn) (endsWithHole elements)
  | .object properties, level, noIn =>
    Layout.entries level (Property.piecesList properties (level + 1) noIn)
  | .function name params body, level, noIn =>
    Layout.word .function ++ Layout.space ++ name.elim [] Layout.name ++ layoutParams params ++
      Layout.space ++ Layout.braces level (Statement.piecesList body (level + 1) noIn)
  | .arrow params body, level, noIn =>
    layoutParams params ++ Layout.space ++ Layout.mark .arrow ++ Layout.space ++
      wrapBody body (body.pieces level noIn, body.rank noIn)
  | .arrowBlock params body, level, noIn =>
    layoutParams params ++ Layout.space ++ Layout.mark .arrow ++ Layout.space ++
      Layout.braces level (Statement.piecesList body (level + 1) noIn)
  | .unary op argument, level, noIn =>
    layoutUnary op (wrap Level.unary (argument.pieces level noIn, argument.rank noIn))
  | .update op true argument, level, noIn =>
    .lexeme op.lexeme :: wrap Level.unary (argument.pieces level noIn, argument.rank noIn)
  | .update op false argument, level, noIn =>
    wrap Level.call (argument.pieces level noIn, argument.rank noIn) ++ [.lexeme op.lexeme]
  | .binary op left right, level, noIn =>
    let own := op.level?.getD 0
    let inside := past noIn (left.tally 0 1)
    let whole := operation op
      (wrap (operandLevels op own).1 (left.pieces level noIn, left.rank noIn))
      (wrap (operandLevels op own).2 (right.pieces level inside, right.rank inside))
    if op = .isIn && past noIn (left.tally 0 1 + right.tally 0 1) then Layout.parens whole
    else whole
  | .logical op left right, level, noIn =>
    let own := op.level?.getD 0
    let inside := past noIn (left.tally 0 1)
    operation op
      (wrapOperand op (operandLevels op own).1 left (left.pieces level noIn, left.rank noIn))
      (wrapOperand op (operandLevels op own).2 right (right.pieces level inside, right.rank inside))
  | .assignment op left right, level, noIn =>
    let inside := past noIn (left.tally 0 1)
    wrap Level.call (left.pieces level noIn, left.rank noIn) ++ Layout.space ++
      (.lexeme op.lexeme :: Layout.space) ++
      wrap Level.assignment (right.pieces level inside, right.rank inside)
  | .conditional test consequent alternate, level, noIn =>
    let second := past noIn (test.tally 0 1)
    let third := past second (consequent.tally 0 1)
    wrap Level.nullish (test.pieces level noIn, test.rank noIn) ++ Layout.space ++
      Layout.mark .question ++ Layout.space ++
      wrap Level.assignment (consequent.pieces level second, consequent.rank second) ++
      Layout.space ++ Layout.mark .colon ++ Layout.space ++
      wrap Level.assignment (alternate.pieces level third, alternate.rank third)
  | .call callee arguments, level, noIn =>
    wrap Level.call (callee.pieces level noIn, callee.rank noIn) ++
      Layout.parens (Layout.commas
        (Expression.piecesList arguments level (past noIn (callee.tally 0 1))))
  | .new callee arguments, level, noIn =>
    Layout.word .new ++ Layout.space ++
      wrap (if containsCall callee then Level.always else Level.member)
        (callee.pieces level noIn, callee.rank noIn) ++
      Layout.parens (Layout.commas
        (Expression.piecesList arguments level (past noIn (callee.tally 0 1))))
  | .member object property computed, level, noIn =>
    wrap (if absorbsPoint object then Level.always else Level.call)
        (object.pieces level noIn, object.rank noIn) ++
      if computed then
        Layout.brackets (property.pieces level (past noIn (object.tally 0 1)))
      else Layout.mark .dot ++
        match property with
        | .identifier name => Layout.name name
        | _ => []
  | .sequence expressions, level, noIn =>
    Layout.commas (Expression.piecesList expressions level noIn)

def Expression.piecesList : List (Expression Text) → Nat → Bool → List Layout
  | [], _, _ => []
  | e :: es, level, noIn =>
    wrap Level.assignment (e.pieces level noIn, e.rank noIn) ::
      Expression.piecesList es level (past noIn (e.tally 0 1))

def Expression.piecesElements : List (Option (Expression Text)) → Nat → Bool → List Layout
  | [], _, _ => []
  | none :: es, level, noIn => [] :: Expression.piecesElements es level noIn
  | some e :: es, level, noIn =>
    wrap Level.assignment (e.pieces level noIn, e.rank noIn) ::
      Expression.piecesElements es level (past noIn (e.tally 0 1))

def Expression.piecesOption : Option (Expression Text) → Nat → Bool → Layout
  | none, _, _ => []
  | some e, level, noIn => Layout.space ++ e.pieces level noIn

def Property.pieces : Property Text → Nat → Bool → Layout
  | .mk key value computed shorthand method, level, noIn =>
    let keyPieces := wrapKey key computed (key.pieces level noIn, key.rank noIn)
    let inside := if computed then past noIn (key.tally 0 1) else noIn
    match shorthand, method, value with
    | true, _, .identifier name =>
      if name = keyPieces.text then keyPieces
      else keyPieces ++ Layout.mark .colon ++ Layout.space ++ Layout.name name
    | _, true, .function _ params body =>
      keyPieces ++ layoutParams params ++ Layout.space ++
        Layout.braces level (Statement.piecesList body (level + 1) inside)
    | _, _, value =>
      keyPieces ++ Layout.mark .colon ++ Layout.space ++
        wrap Level.assignment (value.pieces level inside, value.rank inside)

def Property.piecesList : List (Property Text) → Nat → Bool → List Layout
  | [], _, _ => []
  | p :: ps, level, noIn =>
    p.pieces level noIn :: Property.piecesList ps level (past noIn (p.tally 0 1))

def Declarator.pieces : Declarator Text → Nat → Bool → Layout
  | .mk name none, _, _ => Layout.name name
  | .mk name (some init), level, noIn =>
    Layout.name name ++ Layout.space ++ Layout.mark .assign ++ Layout.space ++
      wrap Level.assignment (init.pieces level noIn, init.rank noIn)

def Declarator.piecesList : List (Declarator Text) → Nat → Bool → List Layout
  | [], _, _ => []
  | d :: ds, level, noIn =>
    d.pieces level noIn :: Declarator.piecesList ds level (past noIn (d.tally 0 1))

def Declaration.pieces : Declaration Text → Nat → Bool → Layout
  | .function name params body, level, noIn =>
    Layout.word .function ++ Layout.space ++ Layout.name name ++ layoutParams params ++
      Layout.space ++ Layout.braces level (Statement.piecesList body (level + 1) noIn)
  | .variables kind declarators, level, noIn =>
    Layout.word kind.keyword ++ Layout.space ++
      Layout.commas (Declarator.piecesList declarators level noIn) ++ Layout.mark .semicolon

def LoopHead.pieces : LoopHead Text → Nat → Nat → Bool → Layout
  | .variables kind declarators, _, level, noIn =>
    Layout.word kind.keyword ++ Layout.space ++
      Layout.commas (Declarator.piecesList declarators level noIn)
  | .expression value, required, level, noIn =>
    wrap required (value.pieces level noIn, value.rank noIn)

/-- The first clause of a counting loop, if there is one. -/
def LoopHead.clausePieces : Option (LoopHead Text) → Nat → Layout
  | none, _ => []
  | some head, level => head.pieces Level.sequence level true

def Statement.pieces : Statement Text → Nat → Bool → Layout
  | .declaration value, level, noIn => value.pieces level noIn
  | .exportDeclaration value, level, noIn =>
    Layout.word .export ++ Layout.space ++ value.pieces level noIn
  | .exportList specifiers source, _, _ => ((layoutExports specifiers source).toOption).getD []
  | .importList specifiers source, _, _ => ((layoutImports specifiers source).toOption).getD []
  | .expression value, level, noIn =>
    (if (startsAmbiguously value).toOption = some true then
      Layout.parens (value.pieces level noIn)
    else value.pieces level noIn) ++ Layout.mark .semicolon
  | .block body, level, noIn => Layout.braces level (Statement.piecesList body (level + 1) noIn)
  | .return argument, level, noIn =>
    Layout.word .return ++ Expression.piecesOption argument level noIn ++ Layout.mark .semicolon
  | .if test consequent alternate, level, noIn =>
    let head := Layout.word .if ++ Layout.space ++ Layout.parens (test.pieces level noIn)
    let inside := past noIn (test.tally 0 1)
    match alternate with
    | none =>
      head ++ bodyLead consequent level ++ consequent.pieces (bodyLevel consequent level) inside
    | some other =>
      let first := head ++
        (bodyLead consequent level ++ consequent.pieces (bodyLevel consequent level) inside)
      first ++
        (if isBlock consequent || first.text.lastIs '\x7d' then Layout.space
          else [.newline level]) ++
        Layout.word .else ++ (if isIf other then Layout.space else bodyLead other level) ++
        other.pieces (if isIf other then level else bodyLevel other level)
          (past inside (consequent.tally 0 1))
  | .for init test update body, level, noIn =>
    let second := init.elim noIn fun _ => false
    let third := past second (Expression.tallyOption 0 1 test)
    let fourth := past third (Expression.tallyOption 0 1 update)
    Layout.word .for ++ Layout.space ++
      Layout.parens (LoopHead.clausePieces init level ++ Layout.mark .semicolon ++
        Expression.piecesOption test level second ++ Layout.mark .semicolon ++
        Expression.piecesOption update level third) ++
      bodyLead body level ++ body.pieces (bodyLevel body level) fourth
  | .forIn left right body, level, noIn =>
    let second := past noIn (left.tally 0 1)
    let third := past second (right.tally 0 1)
    Layout.word .for ++ Layout.space ++
      Layout.parens (left.pieces Level.postfixed level noIn ++ Layout.space ++ Layout.word .in ++
        Layout.space ++ right.pieces level second) ++
      bodyLead body level ++ body.pieces (bodyLevel body level) third
  | .forOf left right body, level, noIn =>
    let second := past noIn (left.tally 0 1)
    let third := past second (right.tally 0 1)
    Layout.word .for ++ Layout.space ++
      Layout.parens (left.pieces Level.postfixed level noIn ++ Layout.space ++
        Layout.name (Text.ofString "of") ++ Layout.space ++
        wrap Level.assignment (right.pieces level second, right.rank second)) ++
      bodyLead body level ++ body.pieces (bodyLevel body level) third
  | .while test body, level, noIn =>
    Layout.word .while ++ Layout.space ++ Layout.parens (test.pieces level noIn) ++
      bodyLead body level ++ body.pieces (bodyLevel body level) (past noIn (test.tally 0 1))
  | .doWhile body test, level, noIn =>
    Layout.word .do ++ bodyLead body level ++ body.pieces (bodyLevel body level) noIn ++
      (if isBlock body then Layout.space else [.newline level]) ++ Layout.word .while ++
      Layout.space ++ Layout.parens (test.pieces level (past noIn (body.tally 0 1))) ++
      Layout.mark .semicolon
  | .break, _, _ => Layout.word .break ++ Layout.mark .semicolon
  | .continue, _, _ => Layout.word .continue ++ Layout.mark .semicolon
  | .throw argument, level, noIn =>
    Layout.word .throw ++ Layout.space ++ argument.pieces level noIn ++ Layout.mark .semicolon
  | .try block handler finalizer, level, noIn =>
    let second := past noIn (Statement.tallyList 0 1 block)
    let third := past second (CatchClause.tallyOption 0 1 handler)
    Layout.word .try ++ Layout.space ++
      Layout.braces level (Statement.piecesList block (level + 1) noIn) ++
      CatchClause.piecesOption handler level second ++
      Statement.piecesFinalizer finalizer level third
  | .switch discriminant cases, level, noIn =>
    Layout.word .switch ++ Layout.space ++ Layout.parens (discriminant.pieces level noIn) ++
      Layout.space ++
      if cases.isEmpty then Layout.mark .braceOpen ++ Layout.mark .braceClose
      else casesBraces level
        (SwitchCase.piecesList cases level (past noIn (discriminant.tally 0 1)))
  | .empty, _, _ => Layout.mark .semicolon

def Statement.piecesList : List (Statement Text) → Nat → Bool → List Layout
  | [], _, _ => []
  | s :: ss, level, noIn =>
    s.pieces level noIn :: Statement.piecesList ss level (past noIn (s.tally 0 1))

def CatchClause.piecesOption : Option (CatchClause Text) → Nat → Bool → Layout
  | none, _, _ => []
  | some (.mk param body), level, noIn =>
    Layout.space ++ Layout.word .catch ++ Layout.space ++
      param.elim [] (fun name => Layout.parens (Layout.name name) ++ Layout.space) ++
      Layout.braces level (Statement.piecesList body (level + 1) noIn)

def Statement.piecesFinalizer : Option (List (Statement Text)) → Nat → Bool → Layout
  | none, _, _ => []
  | some body, level, noIn =>
    Layout.space ++ Layout.word .finally ++ Layout.space ++
      Layout.braces level (Statement.piecesList body (level + 1) noIn)

def SwitchCase.piecesList : List (SwitchCase Text) → Nat → Bool → Layout
  | [], _, _ => []
  | .mk none consequent :: cases, level, noIn =>
    .newline (level + 1) :: Layout.word .default ++ Layout.mark .colon ++
      (Statement.piecesList consequent (level + 2) noIn).flatMap (.newline (level + 2) :: ·) ++
      SwitchCase.piecesList cases level (past noIn (Statement.tallyList 0 1 consequent))
  | .mk (some e) consequent :: cases, level, noIn =>
    let second := past noIn (e.tally 0 1)
    let third := past second (Statement.tallyList 0 1 consequent)
    .newline (level + 1) :: (Layout.word .case ++ Layout.space ++ e.pieces (level + 1) noIn) ++
      Layout.mark .colon ++
      (Statement.piecesList consequent (level + 2) second).flatMap (.newline (level + 2) :: ·) ++
      SwitchCase.piecesList cases level third

end

/-! ## The printer, step by step -/

namespace Printer

variable {α β : Type} {noIn noIn' : Bool}

theorem bind_ok {x : Printer α} {f : α → Printer β} {a : α}
    (found : x noIn = .ok (a, noIn')) : (x >>= f) noIn = f a noIn' := by
  change (x noIn >>= fun r => f r.1 r.2) = _
  rw [found]
  rfl

theorem bind_pure {a : α} {f : α → Printer β} : (pure a >>= f) noIn = f a noIn := rfl

theorem bind_set {f : PUnit → Printer β} : (set noIn' >>= f) noIn = f ⟨⟩ noIn' := rfl

theorem bind_lift {x : Except PrintError α} {a : α} {f : α → Printer β} (found : x = .ok a) :
    ((liftM x : Printer α) >>= f) noIn = f a noIn := by
  rw [found]
  rfl

theorem ok_past {a : α} (same : noIn = noIn') :
    (.ok (a, noIn) : Except PrintError (α × Bool)) = .ok (a, noIn') := by rw [same]

section Parts

variable {γ δ : Type} {x : Printer α} {y : Printer β} {z : Printer γ} {a : α} {b : Bool → β}
  {c : Bool → γ} {m n k : Nat}

/-- Two parts, one behind the other. -/
theorem two_parts {f : α → β → δ} (first : x noIn = .ok (a, past noIn m))
    (second : ∀ noIn, y noIn = .ok (b noIn, past noIn n)) :
    (do let u ← x; let v ← y; return f u v : Printer δ) noIn =
      .ok (f a (b (past noIn m)), past noIn (m + n)) := by
  rw [bind_ok first, bind_ok (second _), past_past]
  rfl

/-- Three parts, one behind the other. -/
theorem three_parts {f : α → β → γ → δ} (first : x noIn = .ok (a, past noIn m))
    (second : ∀ noIn, y noIn = .ok (b noIn, past noIn n))
    (third : ∀ noIn, z noIn = .ok (c noIn, past noIn k)) :
    (do let u ← x; let v ← y; let w ← z; return f u v w : Printer δ) noIn =
      .ok (f a (b (past noIn m)) (c (past (past noIn m) n)), past noIn (m + n + k)) := by
  rw [bind_ok first, two_parts (second _) third, past_past noIn m (n + k), Nat.add_assoc]

end Parts

end Printer

def Expression.Prints (e : Expression Text) : Prop := ∀ level noIn,
  e.layout level noIn = .ok ((e.pieces level noIn, e.rank noIn), past noIn (e.tally 0 1))

def Property.Prints (p : Property Text) : Prop := ∀ level noIn,
  p.layout level noIn = .ok (p.pieces level noIn, past noIn (p.tally 0 1))

def Declarator.Prints (d : Declarator Text) : Prop := ∀ level noIn,
  d.layout level noIn = .ok (d.pieces level noIn, past noIn (d.tally 0 1))

def Declaration.Prints (d : Declaration Text) : Prop := ∀ level noIn,
  d.layout level noIn = .ok (d.pieces level noIn, past noIn (d.tally 0 1))

def LoopHead.Prints (head : LoopHead Text) : Prop := ∀ required level noIn,
  head.layout required level noIn =
    .ok (head.pieces required level noIn, past noIn (head.tally 0 1))

def Statement.Prints (s : Statement Text) : Prop := ∀ level noIn,
  s.layout level noIn = .ok (s.pieces level noIn, past noIn (s.tally 0 1))

def CatchClause.Prints : CatchClause Text → Prop
  | .mk _ body => ∀ s ∈ body, s.Prints

def SwitchCase.Prints : SwitchCase Text → Prop
  | .mk test consequent => (∀ e ∈ test, e.Prints) ∧ ∀ s ∈ consequent, s.Prints

/-! ## Lists and options

Each proof runs the printer part by part; what is left in the end is the state. -/

theorem Expression.layoutList_eq {es : List (Expression Text)} (each : ∀ e ∈ es, e.Prints)
    (level : Nat) (noIn : Bool) : Expression.layoutList es level noIn =
      .ok (Expression.piecesList es level noIn, past noIn (Expression.tallyList 0 1 es)) := by
  induction es generalizing noIn with
  | nil => exact Printer.ok_past (past_zero noIn).symm
  | cons e es ih =>
    obtain ⟨first, later⟩ := List.forall_mem_cons.mp each
    exact Printer.two_parts (first level noIn) (ih later)

theorem Expression.layoutElements_eq {es : List (Option (Expression Text))}
    (each : ∀ e, some e ∈ es → e.Prints) (level : Nat) (noIn : Bool) :
    Expression.layoutElements es level noIn =
      .ok (Expression.piecesElements es level noIn,
        past noIn (Expression.tallyElements 0 1 es)) := by
  induction es generalizing noIn with
  | nil => exact Printer.ok_past (past_zero noIn).symm
  | cons item es ih =>
    have later := ih fun e member => each e (List.mem_cons_of_mem _ member)
    cases item with
    | none => exact Printer.bind_ok (later noIn)
    | some e =>
      exact Printer.two_parts (each e List.mem_cons_self level noIn) later

theorem Expression.layoutOption_eq {option : Option (Expression Text)}
    (each : ∀ e ∈ option, e.Prints) (level : Nat) (noIn : Bool) :
    Expression.layoutOption option level noIn =
      .ok (Expression.piecesOption option level noIn,
        past noIn (Expression.tallyOption 0 1 option)) := by
  cases option with
  | none => exact Printer.ok_past (past_zero noIn).symm
  | some e => exact Printer.bind_ok (each e rfl level noIn)

theorem Property.layoutList_eq {ps : List (Property Text)} (each : ∀ p ∈ ps, p.Prints)
    (level : Nat) (noIn : Bool) : Property.layoutList ps level noIn =
      .ok (Property.piecesList ps level noIn, past noIn (Property.tallyList 0 1 ps)) := by
  induction ps generalizing noIn with
  | nil => exact Printer.ok_past (past_zero noIn).symm
  | cons p ps ih =>
    obtain ⟨first, later⟩ := List.forall_mem_cons.mp each
    exact Printer.two_parts (first level noIn) (ih later)

theorem Declarator.layoutList_eq {ds : List (Declarator Text)} (each : ∀ d ∈ ds, d.Prints)
    (level : Nat) (noIn : Bool) : Declarator.layoutList ds level noIn =
      .ok (Declarator.piecesList ds level noIn, past noIn (Declarator.tallyList 0 1 ds)) := by
  induction ds generalizing noIn with
  | nil => exact Printer.ok_past (past_zero noIn).symm
  | cons d ds ih =>
    obtain ⟨first, later⟩ := List.forall_mem_cons.mp each
    exact Printer.two_parts (first level noIn) (ih later)

theorem Statement.layoutList_eq {ss : List (Statement Text)} (each : ∀ s ∈ ss, s.Prints)
    (level : Nat) (noIn : Bool) : Statement.layoutList ss level noIn =
      .ok (Statement.piecesList ss level noIn, past noIn (Statement.tallyList 0 1 ss)) := by
  induction ss generalizing noIn with
  | nil => exact Printer.ok_past (past_zero noIn).symm
  | cons s ss ih =>
    obtain ⟨first, later⟩ := List.forall_mem_cons.mp each
    exact Printer.two_parts (first level noIn) (ih later)

theorem Statement.layoutFinalizer_eq {finalizer : Option (List (Statement Text))}
    (each : ∀ body ∈ finalizer, ∀ s ∈ body, s.Prints) (level : Nat) (noIn : Bool) :
    Statement.layoutFinalizer finalizer level noIn =
      .ok (Statement.piecesFinalizer finalizer level noIn,
        past noIn (Statement.tallyFinalizer 0 1 finalizer)) := by
  cases finalizer with
  | none => exact Printer.ok_past (past_zero noIn).symm
  | some body => exact Printer.bind_ok (layoutList_eq (each body rfl) (level + 1) noIn)

theorem CatchClause.layoutOption_eq {handler : Option (CatchClause Text)}
    (each : ∀ clause ∈ handler, clause.Prints) (level : Nat) (noIn : Bool) :
    CatchClause.layoutOption handler level noIn =
      .ok (CatchClause.piecesOption handler level noIn,
        past noIn (CatchClause.tallyOption 0 1 handler)) := by
  match handler with
  | none => exact Printer.ok_past (past_zero noIn).symm
  | some (.mk param body) =>
    exact Printer.bind_ok (Statement.layoutList_eq (each _ rfl) (level + 1) noIn)

theorem SwitchCase.layoutList_eq {cases : List (SwitchCase Text)} (each : ∀ c ∈ cases, c.Prints)
    (level : Nat) (noIn : Bool) : SwitchCase.layoutList cases level noIn =
      .ok (SwitchCase.piecesList cases level noIn, past noIn (SwitchCase.tallyList 0 1 cases)) := by
  induction cases generalizing noIn with
  | nil => exact Printer.ok_past (past_zero noIn).symm
  | cons c cases ih =>
    obtain ⟨test, consequent⟩ := c
    obtain ⟨⟨tested, lines⟩, later⟩ := List.forall_mem_cons.mp each
    cases test with
    | none =>
      refine Printer.bind_pure.trans ?_
      refine (Printer.bind_ok (Statement.layoutList_eq lines (level + 2) noIn)).trans ?_
      refine (Printer.bind_ok (ih later _)).trans ?_
      exact Printer.ok_past ((past_past ..).trans (by
        rw [← Nat.zero_add (Statement.tallyList 0 1 consequent)]; rfl))
    | some e =>
      refine (Printer.bind_ok (tested e rfl (level + 1) noIn)).trans ?_
      refine Printer.bind_pure.trans ?_
      refine (Printer.bind_ok (Statement.layoutList_eq lines (level + 2) _)).trans ?_
      refine (Printer.bind_ok (ih later _)).trans ?_
      exact Printer.ok_past (by rw [past_past, past_past, ← Nat.add_assoc]; rfl)

/-! ## Trees -/

/-- The operators of the language have a binding level. -/
theorem BinaryOperator.level?_of_known {op : BinaryOperator}
    (known : ofLexeme? op.lexeme = some op) :
    ∃ precedence, op.precedence? = some precedence ∧ 1 ≤ precedence ∧ precedence ≤ 12 ∧
      op.level? = some (max Level.nullish (precedence + 1)) := by
  cases op with
  | other spelling => cases known
  | _ => exact ⟨_, rfl, by decide, by decide, rfl⟩

theorem BinaryOperator.ne_isIn_of_isLogical {op : BinaryOperator}
    (isLogical : op.isLogical = true) :
    op ≠ .isIn := by
  rintro rfl
  cases isLogical

theorem Expression.Grammatical.startsAmbiguously_eq :
    ∀ {e : Expression Text}, e.Grammatical → ∃ ambiguous, startsAmbiguously e = .ok ambiguous
  | _, .identifier _ | _, .number _ _ | _, .string | _, .boolean | _, .null | _, .this
  | _, .array _ | _, .arrow _ _ | _, .arrowBlock _ _ | _, .unary _ _ | _, .new _ _ => ⟨false, rfl⟩
  | _, .function _ _ _ | _, .object _ => ⟨true, rfl⟩
  | .update _ true _, .update _ _ _ => ⟨false, rfl⟩
  | .update _ false _, .update _ _ argument => argument.startsAmbiguously_eq
  | _, .binary _ _ left _ | _, .logical _ _ left _ | _, .assignment _ _ left _ =>
    left.startsAmbiguously_eq
  | _, .conditional test _ _ => test.startsAmbiguously_eq
  | _, .call callee _ => callee.startsAmbiguously_eq
  | _, .dotted inner _ | _, .computed inner _ => inner.startsAmbiguously_eq
  | .sequence [], .sequence long _ => by simp at long
  | .sequence (_ :: _), .sequence _ each =>
    (each _ (List.mem_cons_self ..)).startsAmbiguously_eq

namespace Expression.Prints

variable {params : List Text} {callee left right test consequent alternate : Expression Text}
  {arguments : List (Expression Text)} {body : List (Statement Text)}

theorem identifier {name : Text} : (Expression.identifier name).Prints := fun _ noIn =>
  Printer.ok_past (past_zero noIn).symm

theorem this : Expression.this.Prints := fun _ noIn => Printer.ok_past (past_zero noIn).symm

theorem literal {value : Literal} {raw : Option Text} {lexeme : Lexeme}
    (written : layoutLiteral value raw = .ok lexeme) (positive : lexeme.source.headIs '-' = false) :
    (Expression.literal value raw).Prints := by
  intro level noIn
  have pieces : (Expression.literal value raw).pieces level noIn = [.lexeme lexeme] := by
    change literalPieces value raw = _
    rw [literalPieces, written]
  refine (Printer.bind_lift written).trans ?_
  rw [positive, pieces]
  exact Printer.ok_past (past_zero noIn).symm

theorem array {elements : List (Option (Expression Text))}
    (each : ∀ e, some e ∈ elements → e.Prints) : (Expression.array elements).Prints :=
  fun level noIn => Printer.bind_ok (layoutElements_eq each level noIn)

theorem object {properties : List (Property Text)} (each : ∀ p ∈ properties, p.Prints) :
    (Expression.object properties).Prints := fun level noIn =>
  Printer.bind_ok (Property.layoutList_eq each (level + 1) noIn)

theorem function {name : Option Text} (each : ∀ s ∈ body, s.Prints) :
    (Expression.function name params body).Prints := fun level noIn =>
  Printer.bind_ok (Statement.layoutList_eq each (level + 1) noIn)

theorem arrow {body : Expression Text} (prints : body.Prints) :
    (Expression.arrow params body).Prints := by
  intro level noIn
  refine (Printer.bind_ok (prints level noIn)).trans ?_
  cases body <;> rfl

theorem arrowBlock (each : ∀ s ∈ body, s.Prints) : (Expression.arrowBlock params body).Prints := by
  intro level noIn
  refine (Printer.bind_ok (Statement.layoutList_eq each (level + 1) noIn)).trans ?_
  exact Printer.ok_past (congrArg (past noIn) (Nat.zero_add _).symm)

theorem unary {op : UnaryOperator} (prints : left.Prints) : (Expression.unary op left).Prints :=
  fun level noIn => Printer.bind_ok (prints level noIn)

theorem update {op : UpdateOperator} {inFront : Bool} (prints : left.Prints) :
    (Expression.update op inFront left).Prints := by
  intro level noIn
  cases inFront <;> exact Printer.bind_ok (prints level noIn)

section Operation

variable {op : BinaryOperator} (known : BinaryOperator.ofLexeme? op.lexeme = some op)

include known

theorem binary (first : left.Prints) (second : right.Prints) :
    (Expression.binary op left right).Prints := by
  intro level noIn
  obtain ⟨precedence, -, -, -, own⟩ := BinaryOperator.level?_of_known known
  rw [Expression.layout, own]
  refine (Printer.bind_ok (first level noIn)).trans ?_
  refine (Printer.bind_ok (second level _)).trans ?_
  change Except.ok (layoutBinary op _ _ _ (past (past noIn _) _), past (past noIn _) _) = _
  rw [past_past, layoutBinary_eq, Expression.pieces, rank_binary, own]
  split <;> rfl

theorem logical (isLogical : op.isLogical = true) (first : left.Prints) (second : right.Prints) :
    (Expression.logical op left right).Prints := by
  intro level noIn
  obtain ⟨precedence, -, -, -, own⟩ := BinaryOperator.level?_of_known known
  have other := BinaryOperator.ne_isIn_of_isLogical isLogical
  rw [Expression.layout, own]
  refine (Printer.bind_ok (first level noIn)).trans ?_
  refine (Printer.bind_ok (second level _)).trans ?_
  change Except.ok (layoutBinary op _ _ _ (past (past noIn _) _), past (past noIn _) _) = _
  rw [past_past, layoutBinary_eq, if_neg (by simp [other]), Expression.pieces, rank_logical, own]
  rfl

end Operation

theorem assignment {op : AssignmentOperator} (first : left.Prints) (second : right.Prints) :
    (Expression.assignment op left right).Prints := fun level noIn =>
  Printer.two_parts (first level noIn) (second level)

theorem conditional (first : test.Prints) (second : consequent.Prints) (third : alternate.Prints) :
    (Expression.conditional test consequent alternate).Prints := by
  intro level noIn
  refine (Printer.three_parts (first level noIn) (second level) (third level)).trans ?_
  rfl

theorem call (first : callee.Prints) (each : ∀ e ∈ arguments, e.Prints) :
    (Expression.call callee arguments).Prints := fun level noIn =>
  Printer.two_parts (first level noIn) (layoutList_eq each level)

theorem new (first : callee.Prints) (each : ∀ e ∈ arguments, e.Prints) :
    (Expression.new callee arguments).Prints := fun level noIn =>
  Printer.two_parts (first level noIn) (layoutList_eq each level)

theorem dotted {name : Text} (prints : left.Prints) :
    (Expression.member left (.identifier name) false).Prints := by
  intro level noIn
  refine (Printer.bind_ok (prints level noIn)).trans ?_
  change Except.ok ((_ ++ Layout.mark .dot ++ Layout.name name, _), _) = _
  rw [List.append_assoc]
  rfl

theorem computed (first : left.Prints) (second : right.Prints) :
    (Expression.member left right true).Prints := fun level noIn =>
  Printer.two_parts (first level noIn) (second level)

theorem sequence (each : ∀ e ∈ arguments, e.Prints) : (Expression.sequence arguments).Prints :=
  fun level noIn => Printer.bind_ok (layoutList_eq each level noIn)

end Expression.Prints

def layoutKey (key : Expression Text) (computed : Bool) (level : Nat) : Printer Layout :=
  match computed, key with
  | false, .identifier name => pure (Layout.name name)
  | false, .literal value raw => do
    let lexeme ← layoutLiteral value raw
    pure [.lexeme lexeme]
  | _, key => do
    let printed ← key.layout level
    pure (Layout.brackets (wrap Level.assignment printed))

def Expression.KeyPrints (key : Expression Text) (computed : Bool) : Prop := ∀ level noIn,
  layoutKey key computed level noIn =
    .ok (wrapKey key computed (key.pieces level noIn, key.rank noIn),
      past noIn (if computed then key.tally 0 1 else 0))

namespace Expression.KeyPrints

theorem identifier {name : Text} : (Expression.identifier name).KeyPrints false := fun _ noIn =>
  Printer.ok_past (past_zero noIn).symm

theorem literal {value : Literal} {raw : Option Text} {lexeme : Lexeme}
    (written : layoutLiteral value raw = .ok lexeme) :
    (Expression.literal value raw).KeyPrints false := by
  intro level noIn
  refine (Printer.bind_lift written).trans ?_
  change _ = Except.ok (literalPieces value raw, past noIn 0)
  rw [literalPieces, written, past_zero]
  rfl

theorem computed {key : Expression Text} (prints : key.Prints) : key.KeyPrints true :=
  fun level noIn => Printer.bind_ok (prints level noIn)

end Expression.KeyPrints

namespace Property.Prints

variable {key value : Expression Text} {computed : Bool} {params : List Text}
  {body : List (Statement Text)}

theorem pair (first : key.KeyPrints computed) (second : value.Prints) :
    (Property.mk key value computed false false).Prints := by
  intro level noIn
  have split : (Property.mk key value computed false false).layout level = (do
      let keyLayout ← layoutKey key computed level
      let printed ← value.layout level
      return keyLayout ++ Layout.mark .colon ++ Layout.space ++ wrap Level.assignment printed) := by
    cases computed <;> cases key <;> simp [Property.layout, layoutKey]
  rw [split]
  refine (Printer.two_parts (first level noIn) (second level)).trans ?_
  cases computed
  · simp only [Property.pieces, Property.tally, Bool.false_eq_true, if_false, past_zero]
  · rfl

theorem method (first : key.KeyPrints computed) (each : ∀ s ∈ body, s.Prints) :
    (Property.mk key (.function none params body) computed false true).Prints := by
  intro level noIn
  have split : (Property.mk key (.function none params body) computed false true).layout level = (do
      let keyLayout ← layoutKey key computed level
      let lines ← Statement.layoutList body (level + 1)
      return keyLayout ++ layoutParams params ++ Layout.space ++ Layout.braces level lines) := by
    cases computed <;> cases key <;> simp [Property.layout, layoutKey]
  rw [split]
  refine (Printer.two_parts (first level noIn) (Statement.layoutList_eq each (level + 1))).trans ?_
  cases computed
  · simp only [Property.pieces, Property.tally, Bool.false_eq_true, if_false, past_zero]
    rfl
  · rfl

/-- A shorthand whose name has become two names is written as a pair. -/
theorem shorthand {key name : Text} :
    (Property.mk (.identifier key) (.identifier name) false true false).Prints := by
  intro level noIn
  refine Printer.bind_pure.trans ?_
  change (if name = (Layout.name key).text then _ else _ : Printer Layout) noIn = .ok
    (if name = (Layout.name key).text then _ else _, past noIn 0)
  rw [past_zero]
  split <;> rfl

end Property.Prints

theorem Declarator.Prints.mk {name : Text} {init : Option (Expression Text)}
    (each : ∀ e ∈ init, e.Prints) : (Declarator.mk name init).Prints := by
  intro level noIn
  cases init with
  | none => exact Printer.ok_past (past_zero noIn).symm
  | some e => exact Printer.bind_ok (each e rfl level noIn)

theorem Declaration.Prints.function {name : Text} {params : List Text}
    {body : List (Statement Text)} (each : ∀ s ∈ body, s.Prints) :
    (Declaration.function name params body).Prints := fun level noIn =>
  Printer.bind_ok (Statement.layoutList_eq each (level + 1) noIn)

theorem Declaration.Prints.variables {kind : VariableKind} {declarators : List (Declarator Text)}
    (each : ∀ d ∈ declarators, d.Prints) : (Declaration.variables kind declarators).Prints :=
  fun level noIn => Printer.bind_ok (Declarator.layoutList_eq each level noIn)

theorem LoopHead.Prints.variables {kind : VariableKind} {declarators : List (Declarator Text)}
    (each : ∀ d ∈ declarators, d.Prints) : (LoopHead.variables kind declarators).Prints :=
  fun _ level noIn => Printer.bind_ok (Declarator.layoutList_eq each level noIn)

theorem LoopHead.Prints.expression {value : Expression Text} (prints : value.Prints) :
    (LoopHead.expression value).Prints := fun _ level noIn => Printer.bind_ok (prints level noIn)

namespace Statement.Prints

variable {value test discriminant : Expression Text} {body consequent : Statement Text}
  {lines : List (Statement Text)}

theorem declaration {value : Declaration Text} (prints : value.Prints) :
    (Statement.declaration value).Prints := fun level noIn => prints level noIn

theorem exportDeclaration {value : Declaration Text} (prints : value.Prints) :
    (Statement.exportDeclaration value).Prints := fun level noIn =>
  Printer.bind_ok (prints level noIn)

theorem expression {ambiguous : Bool} (starts : startsAmbiguously value = .ok ambiguous)
    (prints : value.Prints) : (Statement.expression value).Prints := by
  intro level noIn
  refine (Printer.bind_ok (prints level noIn)).trans ?_
  refine (Printer.bind_lift starts).trans ?_
  have pieces : (Statement.expression value).pieces level noIn =
      (if ambiguous then Layout.parens (value.pieces level noIn) else value.pieces level noIn) ++
        Layout.mark .semicolon := by
    change (if (startsAmbiguously value).toOption = some true then _ else _) ++ _ = _
    rw [starts]
    cases ambiguous <;> rfl
  rw [pieces]
  rfl

theorem block (each : ∀ s ∈ lines, s.Prints) : (Statement.block lines).Prints :=
  fun level noIn => Printer.bind_ok (layoutList_eq each (level + 1) noIn)

theorem «return» {argument : Option (Expression Text)} (each : ∀ e ∈ argument, e.Prints) :
    (Statement.return argument).Prints := fun level noIn =>
  Printer.bind_ok (Expression.layoutOption_eq each level noIn)

theorem ifThen (first : test.Prints) (second : consequent.Prints) :
    (Statement.if test consequent none).Prints := fun level noIn =>
  Printer.two_parts (first level noIn) (second _)

theorem ifElse {alternate : Statement Text} (first : test.Prints) (second : consequent.Prints)
    (closed : takesElse consequent = false) (third : alternate.Prints) :
    (Statement.if test consequent (some alternate)).Prints := by
  intro level noIn
  refine (Printer.bind_ok (first level noIn)).trans ?_
  refine (Printer.bind_ok (second _ _)).trans ?_
  refine (Printer.bind_ok (third _ _)).trans ?_
  simp only [closed, Bool.false_eq_true, if_false]
  exact Printer.ok_past (by rw [past_past, past_past, ← Nat.add_assoc]; rfl)

theorem «for» {init : Option (LoopHead Text)} {second third : Option (Expression Text)}
    (first : ∀ head ∈ init, head.Prints) (testPrints : ∀ e ∈ second, e.Prints)
    (updatePrints : ∀ e ∈ third, e.Prints) (bodyPrints : body.Prints) :
    (Statement.for init second third body).Prints := by
  intro level noIn
  cases init with
  | none =>
    refine Printer.bind_pure.trans ?_
    refine (Printer.bind_ok (Expression.layoutOption_eq testPrints level noIn)).trans ?_
    refine (Printer.bind_ok (Expression.layoutOption_eq updatePrints level _)).trans ?_
    refine (Printer.bind_ok (bodyPrints _ _)).trans ?_
    refine Printer.ok_past ?_
    rw [past_past, past_past, ← Nat.add_assoc, ← Nat.zero_add (Expression.tallyOption 0 1 second)]
    rfl
  | some head =>
    refine Printer.bind_set.trans ?_
    refine (Printer.bind_ok (first head rfl _ level true)).trans ?_
    refine Printer.bind_set.trans ?_
    refine Printer.bind_pure.trans ?_
    refine (Printer.bind_ok (Expression.layoutOption_eq testPrints level false)).trans ?_
    refine (Printer.bind_ok (Expression.layoutOption_eq updatePrints level _)).trans ?_
    refine (Printer.bind_ok (bodyPrints _ _)).trans ?_
    -- The loop itself counts, so the state is off behind it, as it is behind its first clause.
    have weight : (Statement.for (some head) second third body).tally 0 1 =
        1 + (head.tally 0 1 + Expression.tallyOption 0 1 second +
          Expression.tallyOption 0 1 third + body.tally 0 1) := by
      change 1 + head.tally 0 1 + _ + _ + _ = _
      omega
    rw [weight, past_one_add]
    rfl

theorem forIn {left : LoopHead Text} (first : left.Prints) (second : value.Prints)
    (third : body.Prints) : (Statement.forIn left value body).Prints := by
  intro level noIn
  refine (Printer.three_parts (first _ level noIn) (second level) (third _)).trans ?_
  rfl

theorem forOf {left : LoopHead Text} (first : left.Prints) (second : value.Prints)
    (third : body.Prints) : (Statement.forOf left value body).Prints := by
  intro level noIn
  refine (Printer.three_parts (first _ level noIn) (second level) (third _)).trans ?_
  rfl

theorem «while» (first : test.Prints) (second : body.Prints) :
    (Statement.while test body).Prints := fun level noIn =>
  Printer.two_parts (first level noIn) (second _)

theorem doWhile (first : body.Prints) (second : test.Prints) :
    (Statement.doWhile body test).Prints := fun level noIn =>
  Printer.two_parts (first _ noIn) (second level)

theorem throw (prints : value.Prints) : (Statement.throw value).Prints := fun level noIn =>
  Printer.bind_ok (prints level noIn)

theorem «try» {handler : Option (CatchClause Text)} {finalizer : Option (List (Statement Text))}
    (first : ∀ s ∈ lines, s.Prints) (second : ∀ clause ∈ handler, clause.Prints)
    (third : ∀ body ∈ finalizer, ∀ s ∈ body, s.Prints) :
    (Statement.try lines handler finalizer).Prints := fun level noIn =>
  Printer.three_parts (layoutList_eq first (level + 1) noIn)
    (CatchClause.layoutOption_eq second level) (layoutFinalizer_eq third level)

theorem switch {cases : List (SwitchCase Text)} (first : discriminant.Prints)
    (each : ∀ c ∈ cases, c.Prints) :
    (Statement.switch discriminant cases).Prints := fun level noIn =>
  Printer.two_parts (first level noIn) (SwitchCase.layoutList_eq each level)

theorem jump {s : Statement Text} (isJump : s = .break ∨ s = .continue ∨ s = .empty) :
    s.Prints := by
  intro level noIn
  obtain rfl | rfl | rfl := isJump <;> exact Printer.ok_past (past_zero noIn).symm

end Statement.Prints

end LibraryDescriptor
