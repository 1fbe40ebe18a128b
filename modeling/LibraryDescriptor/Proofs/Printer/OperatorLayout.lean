import LibraryDescriptor.Proofs.Printer.OpenTree
import LibraryDescriptor.Proofs.Syntax.OperatorTree

/-!
# Layouts of operator trees

What the printer makes of an operator tree, seen as a row of lexemes: how it starts, that it stays
on one line, and that the scanner finds each of its lexemes again.

* `Expression.within` — an operand at a required level.
* `OperatorTree.leads` — the lexeme that a tree starts with.
* `OperatorTree.isFlat` — no line break and no arrow.
* `OperatorTree.separates` — no lexeme is continued by what stands behind it.
-/

namespace LibraryDescriptor

def Layout.spaced (x : Lexeme) (left right : Layout) : Layout :=
  left ++ space ++ (.lexeme x :: space) ++ right

namespace Expression

def within (required : Nat) (e : Expression Text) : Layout :=
  wrap required (e.pieces 0 false, e.rank false)

variable {e : Expression Text} {required : Nat}

theorem within_of_le (tight : required ≤ e.rank false) : e.within required = e.pieces 0 false :=
  if_neg (Nat.not_lt.mpr tight)

theorem within_of_lt (loose : e.rank false < required) :
    e.within required = Layout.parens (e.pieces 0 false) :=
  if_pos loose

/-- An operand stands bare or in parentheses. -/
theorem within_cases {motive : Layout → Prop}
    (bare : required ≤ e.rank false → motive (e.pieces 0 false))
    (enclosed : motive (Layout.parens (e.pieces 0 false))) : motive (e.within required) := by
  by_cases tight : required ≤ e.rank false
  · rw [within_of_le tight]
    exact bare tight
  · rw [within_of_lt (Nat.lt_of_not_le tight)]
    exact enclosed

theorem piecesList_eq (es : List (Expression Text)) :
    piecesList es 0 false = es.map (within Level.assignment) := by
  induction es with
  | nil => rfl
  | cons e es ih => exact congrArg (e.within Level.assignment :: ·) ih

/-- An element of an array; a hole is nothing. -/
def elementPieces : Option (Expression Text) → Layout
  | none => []
  | some e => e.within Level.assignment

theorem piecesElements_eq (es : List (Option (Expression Text))) :
    piecesElements es 0 false = es.map elementPieces := by
  induction es with
  | nil => rfl
  | cons element es ih =>
    cases element with
    | none => exact congrArg ([] :: ·) ih
    | some e => exact congrArg (e.within Level.assignment :: ·) ih

section Pieces

variable {left right test consequent alternate callee inner property : Expression Text}
  {arguments : List (Expression Text)}

theorem pieces_array {elements : List (Option (Expression Text))} :
    (array elements).pieces 0 false =
      layoutArray (elements.map elementPieces) (endsWithHole elements) := by
  rw [pieces, piecesElements_eq]

theorem pieces_unary {op : UnaryOperator} :
    (unary op left).pieces 0 false = layoutUnary op (left.within Level.unary) := rfl

theorem pieces_update_true {op : UpdateOperator} :
    (update op true left).pieces 0 false = .lexeme op.lexeme :: left.within Level.unary := rfl

theorem pieces_update_false {op : UpdateOperator} :
    (update op false left).pieces 0 false = left.within Level.call ++ [.lexeme op.lexeme] := rfl

theorem pieces_binary {op : BinaryOperator} :
    (binary op left right).pieces 0 false =
      Layout.spaced op.lexeme (left.within (operandLevels op (op.level?.getD 0)).1)
        (right.within (operandLevels op (op.level?.getD 0)).2) := by
  simp [pieces, within, operation, Layout.spaced]

def logicalLevel (op : BinaryOperator) (required : Nat) (e : Expression Text) : Nat :=
  if mixesNullish op e then Level.always else required

theorem pieces_logical {op : BinaryOperator} :
    (logical op left right).pieces 0 false =
      Layout.spaced op.lexeme
        (left.within (logicalLevel op (operandLevels op (op.level?.getD 0)).1 left))
        (right.within (logicalLevel op (operandLevels op (op.level?.getD 0)).2 right)) := rfl

theorem pieces_assignment {op : AssignmentOperator} :
    (assignment op left right).pieces 0 false =
      Layout.spaced op.lexeme (left.within Level.call) (right.within Level.assignment) := rfl

theorem pieces_conditional :
    (conditional test consequent alternate).pieces 0 false =
      Layout.spaced (.punctuator .question) (test.within Level.nullish)
        (Layout.spaced (.punctuator .colon) (consequent.within Level.assignment)
          (alternate.within Level.assignment)) := by
  simp [pieces, within, Layout.spaced, Layout.mark]

theorem pieces_call :
    (call callee arguments).pieces 0 false =
      callee.within Level.call ++
        Layout.parens (Layout.commas (arguments.map (within Level.assignment))) := by
  rw [← piecesList_eq]
  rfl

theorem pieces_new :
    (new callee arguments).pieces 0 false =
      Layout.word .new ++ Layout.space ++
        callee.within (if containsCall callee then Level.always else Level.member) ++
        Layout.parens (Layout.commas (arguments.map (within Level.assignment))) := by
  rw [← piecesList_eq]
  rfl

def objectLevel (e : Expression Text) : Nat := if absorbsPoint e then Level.always else Level.call

theorem call_le_objectLevel (e : Expression Text) : Level.call ≤ e.objectLevel := by
  unfold objectLevel
  split <;> decide

theorem pieces_dotted {name : Text} :
    (member inner (.identifier name) false).pieces 0 false =
      inner.within inner.objectLevel ++ (Layout.mark .dot ++ Layout.name name) := rfl

theorem pieces_computed :
    (member inner property true).pieces 0 false =
      inner.within inner.objectLevel ++ Layout.brackets (property.pieces 0 false) := rfl

theorem pieces_sequence :
    (sequence arguments).pieces 0 false =
      Layout.commas (arguments.map (within Level.assignment)) := by
  rw [pieces, piecesList_eq]

theorem rank_binary_false {op : BinaryOperator} :
    (binary op left right).rank false = op.level?.getD 0 := by
  simp [rank_binary]

end Pieces

end Expression

/-! ## Operators as lexemes -/

/-- A lexeme that is read as it is written and does not make a function. -/
structure Lexeme.IsSymbol (x : Lexeme) : Prop where
  read : x.read = x
  written : x.Written
  noArrow : x ≠ .punctuator .arrow

theorem Lexeme.isSymbol_mark {p : Punctuator} (noArrow : p ≠ .arrow) :
    (Lexeme.punctuator p).IsSymbol :=
  ⟨rfl, trivial, by simpa using noArrow⟩

theorem UnaryOperator.isSymbol {op : UnaryOperator} (known : ofLexeme? op.lexeme = some op) :
    op.lexeme.IsSymbol := by
  cases op with
  | other => cases known
  | _ => exact ⟨rfl, trivial, nofun⟩

theorem UpdateOperator.isSymbol {op : UpdateOperator} (known : ofLexeme? op.lexeme = some op) :
    op.lexeme.IsSymbol := by
  cases op with
  | other => cases known
  | _ => exact ⟨rfl, trivial, nofun⟩

theorem BinaryOperator.isSymbol {op : BinaryOperator} (known : ofLexeme? op.lexeme = some op) :
    op.lexeme.IsSymbol := by
  cases op with
  | other => cases known
  | _ => exact ⟨rfl, trivial, nofun⟩

theorem AssignmentOperator.isSymbol {op : AssignmentOperator}
    (known : ofLexeme? op.lexeme = some op) : op.lexeme.IsSymbol := by
  cases op with
  | other => cases known
  | _ => exact ⟨rfl, trivial, nofun⟩

/-! ## The first lexeme -/

/-- Whether an operand without an operator in front of it can start with a lexeme. -/
def Lexeme.startsOperand : Lexeme → Bool
  | .identifier _ | .number _ | .string _ => true
  | .keyword k => k ∈ [.true, .false, .null, .this, .new]
  | .punctuator mark => mark ∈ [.parenOpen, .bracketOpen]

def Lexeme.startsExpression (x : Lexeme) : Bool :=
  x.startsOperand || (UnaryOperator.ofLexeme? x).isSome || (UpdateOperator.ofLexeme? x).isSome

namespace Layout

/-- A layout starts with a lexeme of a kind, which is read as it is written. -/
def Leads (starts : Lexeme → Bool) (layout : Layout) : Prop :=
  ∃ x rest, layout = .lexeme x :: rest ∧ x.read = x ∧ starts x = true

variable {starts : Lexeme → Bool} {layout : Layout}

theorem Leads.append (leads : layout.Leads starts) (more : Layout) :
    (layout ++ more).Leads starts := by
  obtain ⟨x, rest, rfl, same, holds⟩ := leads
  exact ⟨x, rest ++ more, rfl, same, holds⟩

theorem Leads.spaced (leads : layout.Leads starts) (x : Lexeme) (right : Layout) :
    (spaced x layout right).Leads starts :=
  ((leads.append _).append _).append _

theorem Leads.expression (leads : layout.Leads Lexeme.startsOperand) :
    layout.Leads Lexeme.startsExpression := by
  obtain ⟨x, rest, rfl, same, holds⟩ := leads
  exact ⟨x, rest, rfl, same, by simp [Lexeme.startsExpression, holds]⟩

theorem leads_parens (layout : Layout) : (parens layout).Leads Lexeme.startsOperand :=
  ⟨.punctuator .parenOpen, layout ++ mark .parenClose, rfl, rfl, rfl⟩

end Layout

/-- What an expression starts with: with an operand, if it binds more tightly than the operators in
front of one. -/
structure Expression.Starts (e : Expression Text) : Prop where
  expression : (e.pieces 0 false).Leads Lexeme.startsExpression
  operand : Level.postfixed ≤ e.rank false → (e.pieces 0 false).Leads Lexeme.startsOperand

namespace Expression.Starts

variable {e : Expression Text} {required : Nat}

theorem within (starts : e.Starts) : (e.within required).Leads Lexeme.startsExpression :=
  within_cases (motive := Layout.Leads Lexeme.startsExpression) (fun _ => starts.expression)
    (Layout.leads_parens _).expression

theorem withinTight (starts : e.Starts) (tight : Level.postfixed ≤ required) :
    (e.within required).Leads Lexeme.startsOperand :=
  within_cases (motive := Layout.Leads Lexeme.startsOperand)
    (fun bare => starts.operand (Nat.le_trans tight bare)) (Layout.leads_parens _)

theorem ofOperand (leads : (e.pieces 0 false).Leads Lexeme.startsOperand) : e.Starts :=
  ⟨leads.expression, fun _ => leads⟩

/-- An expression that binds loosely starts as its first part does. -/
theorem ofLoose (leads : (e.pieces 0 false).Leads Lexeme.startsExpression)
    (loose : e.rank false < Level.postfixed) : e.Starts :=
  ⟨leads, fun tight => absurd loose (Nat.not_lt.mpr tight)⟩

end Expression.Starts

namespace Expression.OperatorTree

theorem starts {e : Expression Text} (tree : e.OperatorTree) : e.Starts := by
  induction tree with
  | identifier isName => exact .ofOperand ⟨_, _, rfl, Lexeme.read_identifier isName, rfl⟩
  | number | string | null | this => exact .ofOperand ⟨_, _, rfl, rfl, rfl⟩
  | @boolean value => cases value <;> exact .ofOperand ⟨_, _, rfl, rfl, rfl⟩
  | array | new => exact .ofOperand ⟨_, _, rfl, rfl, rfl⟩
  | @unary op _ known =>
    refine .ofLoose ⟨op.lexeme, _, rfl, (UnaryOperator.isSymbol known).read, ?_⟩
      (show Level.unary < Level.postfixed by decide)
    simp [Lexeme.startsExpression, known]
  | @update op _ inFront known target _ argument =>
    cases inFront with
    | true =>
      refine .ofLoose ⟨op.lexeme, _, rfl, (UpdateOperator.isSymbol known).read, ?_⟩
        (show Level.unary < Level.postfixed by decide)
      simp [Lexeme.startsExpression, known]
    | false => exact .ofOperand ((argument.withinTight (by decide)).append _)
  | @binary op left right known _ _ _ first =>
    have loose := BinaryOperator.level_lt_unary known
    refine .ofLoose ?_ (by rw [rank_binary_false]; exact Nat.lt_succ_of_lt loose)
    rw [pieces_binary]
    exact first.within.spaced _ _
  | @logical op left right known _ _ _ first =>
    have loose := BinaryOperator.level_lt_unary known
    exact .ofLoose (first.within.spaced _ _) (Nat.lt_succ_of_lt loose)
  | assignment _ _ _ _ first =>
    exact .ofLoose (first.within.spaced _ _) (show Level.assignment < Level.postfixed by decide)
  | conditional _ _ _ first =>
    refine .ofLoose ?_ (show Level.conditional < Level.postfixed by decide)
    rw [pieces_conditional]
    exact first.within.spaced _ _
  | call _ _ callee => exact .ofOperand ((callee.withinTight (by decide)).append _)
  | @dotted inner _ _ _ first =>
    refine .ofOperand ((first.withinTight ?_).append _)
    split <;> decide
  | @computed inner _ _ _ first =>
    refine .ofOperand ((first.withinTight ?_).append _)
    split <;> decide
  | @sequence expressions long _ each =>
    match expressions with
    | [] | [_] => simp at long
    | first :: second :: more =>
      refine .ofLoose ?_ (show Level.sequence < Level.postfixed by decide)
      exact (((each first List.mem_cons_self).within.append _).append _).append _

end Expression.OperatorTree

/-! ## One line without arrows -/

/-- Whether a piece is neither a line break nor an arrow. -/
def Piece.isFlat : Piece → Bool
  | .lexeme x => x.read ≠ .punctuator .arrow
  | .space => true
  | .newline _ => false

def Layout.isFlat (layout : Layout) : Bool := layout.all Piece.isFlat

namespace Layout

variable {left right : Layout}

@[simp] theorem isFlat_nil : isFlat [] = true := rfl

@[simp] theorem isFlat_append : (left ++ right).isFlat = (left.isFlat && right.isFlat) :=
  List.all_append

@[simp] theorem isFlat_lexeme {x : Lexeme} : isFlat (.lexeme x :: left) =
    (decide (x.read ≠ .punctuator .arrow) && left.isFlat) := rfl

@[simp] theorem isFlat_space : space.isFlat = true := rfl

@[simp] theorem isFlat_mark {p : Punctuator} : (mark p).isFlat = decide (p ≠ .arrow) := by
  cases p <;> rfl

@[simp] theorem isFlat_word {k : Keyword} : (word k).isFlat = true := rfl

@[simp] theorem isFlat_parens : (parens left).isFlat = left.isFlat := by
  simp [parens]

@[simp] theorem isFlat_brackets : (brackets left).isFlat = left.isFlat := by
  simp [brackets]

theorem isFlat_spaced {x : Lexeme} (symbol : x.IsSymbol) (first : left.isFlat = true)
    (second : right.isFlat = true) : (spaced x left right).isFlat = true := by
  simp [spaced, first, second, symbol.read, symbol.noArrow]

theorem isFlat_name {name : Text} : (Layout.name name).isFlat = true := by
  cases found : Keyword.ofText? name <;> simp [Layout.name, Lexeme.read, found]

theorem isFlat_commas {layouts : List Layout} (each : ∀ l ∈ layouts, l.isFlat = true) :
    (commas layouts).isFlat = true := by
  fun_induction commas layouts with
  | case1 => rfl
  | case2 l => exact each l List.mem_cons_self
  | case3 l ls _ ih =>
    simp [each l List.mem_cons_self, ih fun k member => each k (List.mem_cons_of_mem _ member)]

end Layout

theorem Expression.isFlat_within {e : Expression Text} {required : Nat}
    (flat : (e.pieces 0 false).isFlat = true) : (e.within required).isFlat = true :=
  within_cases (motive := (·.isFlat = true)) (fun _ => flat) (by simpa using flat)

theorem Expression.isFlat_commas {es : List (Expression Text)}
    (each : ∀ e ∈ es, (e.pieces 0 false).isFlat = true) :
    (Layout.commas (es.map (within Level.assignment))).isFlat = true :=
  Layout.isFlat_commas (List.forall_mem_map.mpr fun e member => isFlat_within (each e member))

theorem Expression.OperatorTree.isFlat {e : Expression Text} (tree : e.OperatorTree) :
    (e.pieces 0 false).isFlat = true := by
  induction tree with
  | identifier => exact Layout.isFlat_name
  | number | string | null | this => rfl
  | @boolean value => cases value <;> rfl
  | @array elements _ each =>
    have items : ∀ l ∈ elements.map elementPieces, l.isFlat = true := by
      simp only [List.forall_mem_map]
      rintro (_ | e) member
      · rfl
      · exact isFlat_within (each e member)
    cases hole : endsWithHole elements <;>
      simp [pieces_array, layoutArray, hole, Layout.isFlat_commas items]
  | @unary op argument known _ flat =>
    have symbol := UnaryOperator.isSymbol known
    simp only [pieces_unary, layoutUnary]
    split <;> simp [isFlat_within flat, symbol.read, symbol.noArrow]
  | @update op argument inFront known _ _ flat =>
    have symbol := UpdateOperator.isSymbol known
    cases inFront <;>
      simp [pieces_update_true, pieces_update_false, isFlat_within flat,
        symbol.read, symbol.noArrow]
  | binary known _ _ _ first second =>
    rw [pieces_binary]
    exact Layout.isFlat_spaced (BinaryOperator.isSymbol known) (isFlat_within first)
      (isFlat_within second)
  | logical known _ _ _ first second =>
    rw [pieces_logical]
    exact Layout.isFlat_spaced (BinaryOperator.isSymbol known) (isFlat_within first)
      (isFlat_within second)
  | assignment known _ _ _ first second =>
    rw [pieces_assignment]
    exact Layout.isFlat_spaced (AssignmentOperator.isSymbol known) (isFlat_within first)
      (isFlat_within second)
  | conditional _ _ _ first second third =>
    rw [pieces_conditional]
    apply Layout.isFlat_spaced (Lexeme.isSymbol_mark (by decide)) (isFlat_within first)
    exact Layout.isFlat_spaced (Lexeme.isSymbol_mark (by decide)) (isFlat_within second)
      (isFlat_within third)
  | call _ _ callee each => simp [pieces_call, isFlat_within callee, isFlat_commas each]
  | new _ _ callee each => simp [pieces_new, isFlat_within callee, isFlat_commas each]
  | dotted _ _ inner => simp [pieces_dotted, isFlat_within inner, Layout.isFlat_name]
  | computed _ _ inner property => simp [pieces_computed, isFlat_within inner, property]
  | sequence _ _ each =>
    rw [pieces_sequence]
    exact isFlat_commas each

/-! ## Separated lexemes -/

theorem Layout.separated_mark {p : Punctuator} {t : Text} (single : p ∈ Punctuator.singles) :
    (mark p).Separated t :=
  ⟨trivial, Punctuator.ends_of_mem_singles single _, trivial⟩

theorem Expression.OperatorTree.separates {e : Expression Text} (tree : e.OperatorTree) :
    ∀ t, e.Meets false t → (e.pieces 0 false).Separated t :=
  (tree.grammatical.shown.shows 0 false).separated

end LibraryDescriptor
