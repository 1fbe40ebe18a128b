import LibraryDescriptor.Proofs.Printer.OpenLayout

/-!
# Trees and the `in` outside their brackets

Where the printer writes an `in` outside all brackets, as a function of a tree and of the state that
it is laid out in.

* `Expression.opensIn`, `LoopHead.opensIn` — whether there is one.
* `Expression.Shown`, `Statement.Shown` — the layout of a tree is found again by the scanner, and
  the function tells whether it has such an `in`.
* `Expression.Grammatical.shown`, `Statement.Grammatical.shown` — so it is for grammatical trees.
* `LoopHead.opensIn_of_tally` — there is none in a first clause without loops.
-/

namespace LibraryDescriptor

/-- Whether an `in` in the open stays there at a required level: if no parentheses are put around
it. -/
def bare (required : Nat) (printed : Bool × Nat) : Bool := required ≤ printed.2 && printed.1

mutual

/-- Whether an expression that is laid out in a state has an `in` outside all brackets. An
expression that binds more tightly than `in` has none. -/
def Expression.opensIn : Expression Text → Bool → Bool
  | .arrow _ body, noIn => bare Level.assignment (body.opensIn noIn, body.rank noIn)
  | .binary op left right, noIn =>
    let own := op.level?.getD 0
    let inside := past noIn (left.tally 0 1)
    !(op = .isIn && past noIn (left.tally 0 1 + right.tally 0 1)) &&
      (bare (operandLevels op own).1 (left.opensIn noIn, left.rank noIn) || op = .isIn ||
        bare (operandLevels op own).2 (right.opensIn inside, right.rank inside))
  | .logical op left right, noIn =>
    let own := op.level?.getD 0
    let inside := past noIn (left.tally 0 1)
    bare (if mixesNullish op left then Level.always else (operandLevels op own).1)
        (left.opensIn noIn, left.rank noIn) ||
      bare (if mixesNullish op right then Level.always else (operandLevels op own).2)
        (right.opensIn inside, right.rank inside)
  | .assignment _ left right, noIn =>
    let inside := past noIn (left.tally 0 1)
    bare Level.assignment (right.opensIn inside, right.rank inside)
  | .conditional test consequent alternate, noIn =>
    let second := past noIn (test.tally 0 1)
    let third := past second (consequent.tally 0 1)
    bare Level.nullish (test.opensIn noIn, test.rank noIn) ||
      bare Level.assignment (consequent.opensIn second, consequent.rank second) ||
      bare Level.assignment (alternate.opensIn third, alternate.rank third)
  | .sequence expressions, noIn => Expression.opensInList expressions noIn
  | _, _ => false

def Expression.opensInList : List (Expression Text) → Bool → Bool
  | [], _ => false
  | e :: es, noIn =>
    bare Level.assignment (e.opensIn noIn, e.rank noIn) ||
      Expression.opensInList es (past noIn (e.tally 0 1))

end

def Declarator.opensIn : Declarator Text → Bool → Bool
  | .mk _ none, _ => false
  | .mk _ (some init), noIn => bare Level.assignment (init.opensIn noIn, init.rank noIn)

def Declarator.opensInList : List (Declarator Text) → Bool → Bool
  | [], _ => false
  | d :: ds, noIn => d.opensIn noIn || Declarator.opensInList ds (past noIn (d.tally 0 1))

def LoopHead.opensIn : LoopHead Text → Nat → Bool → Bool
  | .variables _ declarators, _, noIn => Declarator.opensInList declarators noIn
  | .expression value, required, noIn => bare required (value.opensIn noIn, value.rank noIn)

/-! ## Levels -/

section Rank

variable {e : Expression Text} {required : Nat} {noIn : Bool}

theorem bare_eq_true {shown : Bool} {level : Nat} :
    bare required (shown, level) = true ↔ required ≤ level ∧ shown = true := by
  simp [bare]

@[simp] theorem bare_false {level : Nat} : bare required (false, level) = false := Bool.and_false _

def Level.isIn : Nat := 9

theorem le_isIn_of_operandLevels {op : BinaryOperator} {own : Nat}
    (loose : (operandLevels op own).1 ≤ Level.isIn ∨ (operandLevels op own).2 ≤ Level.isIn) :
    own ≤ Level.isIn := by
  unfold operandLevels Level.postfixed Level.isIn at *
  split at loose <;> omega

/-- An expression with an `in` in the open binds no more tightly than `in`. -/
theorem Expression.rank_le_of_opensIn : ∀ {e : Expression Text} {noIn : Bool},
    e.opensIn noIn = true → e.rank noIn ≤ Level.isIn
  | .arrow _ _, _, _ | .assignment _ _ _, _, _ => (by decide : Level.assignment ≤ Level.isIn)
  | .conditional _ _ _, _, _ => (by decide : Level.conditional ≤ Level.isIn)
  | .sequence _, _, _ => (by decide : Level.sequence ≤ Level.isIn)
  | .binary op left right, noIn, shown => by
    rw [opensIn, Bool.and_eq_true, Bool.not_eq_true', Bool.or_eq_true, Bool.or_eq_true,
      bare_eq_true, bare_eq_true, decide_eq_true_eq] at shown
    obtain ⟨outside, parts⟩ := shown
    rw [rank_binary, outside, if_neg Bool.false_ne_true]
    obtain (⟨tight, inner⟩ | rfl) | ⟨tight, inner⟩ := parts
    · exact le_isIn_of_operandLevels (.inl (Nat.le_trans tight (rank_le_of_opensIn inner)))
    · decide
    · exact le_isIn_of_operandLevels (.inr (Nat.le_trans tight (rank_le_of_opensIn inner)))
  | .logical op left right, noIn, shown => by
    rw [opensIn, Bool.or_eq_true, bare_eq_true, bare_eq_true] at shown
    obtain ⟨tight, inner⟩ | ⟨tight, inner⟩ := shown
    · have below := Nat.le_trans tight (rank_le_of_opensIn inner)
      split at below
      · exact absurd below (by decide)
      · exact le_isIn_of_operandLevels (.inl below)
    · have below := Nat.le_trans tight (rank_le_of_opensIn inner)
      split at below
      · exact absurd below (by decide)
      · exact le_isIn_of_operandLevels (.inr below)

/-- At a level above that of `in` nothing is in the open. -/
theorem bare_of_lt (tight : Level.isIn < required) :
    bare required (e.opensIn noIn, e.rank noIn) = false := by
  rw [Bool.eq_false_iff, Ne, bare_eq_true]
  rintro ⟨within, shown⟩
  have := Expression.rank_le_of_opensIn shown
  exact absurd (Nat.le_trans within this) (Nat.not_le.mpr tight)

end Rank

/-! ## First clauses without loops -/

mutual

theorem Expression.opensIn_of_tally : ∀ {e : Expression Text}, e.tally 0 1 = 0 →
    e.opensIn true = false
  | .arrow _ body, noLoop => by
    rw [opensIn, opensIn_of_tally (e := body) noLoop, bare_false]
  | .binary op left right, noLoop => by
    obtain ⟨first, second⟩ := Nat.add_eq_zero_iff.mp noLoop
    cases isIn : decide (op = .isIn) <;>
      simp [opensIn, first, second, opensIn_of_tally first, opensIn_of_tally second, isIn]
  | .logical op left right, noLoop => by
    obtain ⟨first, second⟩ := Nat.add_eq_zero_iff.mp noLoop
    simp [opensIn, first, opensIn_of_tally first, opensIn_of_tally second]
  | .assignment _ left right, noLoop => by
    obtain ⟨first, second⟩ := Nat.add_eq_zero_iff.mp noLoop
    simp [opensIn, first, opensIn_of_tally second]
  | .conditional test consequent alternate, noLoop => by
    obtain ⟨front, third⟩ := Nat.add_eq_zero_iff.mp noLoop
    obtain ⟨first, second⟩ := Nat.add_eq_zero_iff.mp front
    simp [opensIn, first, second, opensIn_of_tally first, opensIn_of_tally second,
      opensIn_of_tally third]
  | .sequence _, noLoop => opensInList_of_tally noLoop
  | .identifier _, _ | .literal _ _, _ | .this, _ | .array _, _ | .object _, _ | .function _ _ _, _
  | .arrowBlock _ _, _ | .unary _ _, _ | .update _ _ _, _ | .call _ _, _ | .new _ _, _
  | .member _ _ _, _ => rfl

theorem Expression.opensInList_of_tally : ∀ {es : List (Expression Text)},
    Expression.tallyList 0 1 es = 0 → Expression.opensInList es true = false
  | [], _ => rfl
  | e :: es, noLoop => by
    obtain ⟨first, later⟩ := Nat.add_eq_zero_iff.mp noLoop
    simp [opensInList, first, opensIn_of_tally first, opensInList_of_tally later]

end

theorem Declarator.opensInList_of_tally {ds : List (Declarator Text)}
    (noLoop : Declarator.tallyList 0 1 ds = 0) : Declarator.opensInList ds true = false := by
  induction ds with
  | nil => rfl
  | cons d ds ih =>
    obtain ⟨first, later⟩ := Nat.add_eq_zero_iff.mp noLoop
    have item : d.opensIn true = false := by
      match d with
      | .mk _ none => rfl
      | .mk _ (some init) =>
        rw [opensIn, Expression.opensIn_of_tally first, bare_false]
    simp [opensInList, first, item, ih later]

/-- A first clause without a loop in it has no `in` outside its brackets. -/
theorem LoopHead.opensIn_of_tally {head : LoopHead Text} (noLoop : head.tally 0 1 = 0)
    (required : Nat) : head.opensIn required true = false := by
  match head with
  | .variables _ declarators => exact Declarator.opensInList_of_tally noLoop
  | .expression value => rw [opensIn, Expression.opensIn_of_tally noLoop, bare_false]

/-! ## Operators -/

theorem UnaryOperator.isNeutral {op : UnaryOperator} (known : ofLexeme? op.lexeme = some op) :
    op.lexeme.Written ∧ op.lexeme.read.isNeutral = true := by
  cases op with
  | other => cases known
  | _ => exact ⟨trivial, by decide⟩

theorem UpdateOperator.isNeutral {op : UpdateOperator} (known : ofLexeme? op.lexeme = some op) :
    op.lexeme.Written ∧ op.lexeme.read.isNeutral = true := by
  cases op with
  | other => cases known
  | _ => exact ⟨trivial, by decide⟩

theorem AssignmentOperator.isNeutral {op : AssignmentOperator}
    (known : ofLexeme? op.lexeme = some op) :
    op.lexeme.Written ∧ op.lexeme.read.isNeutral = true := by
  cases op with
  | other => cases known
  | _ => exact ⟨trivial, by decide⟩

theorem BinaryOperator.level_lt_unary {op : BinaryOperator}
    (known : ofLexeme? op.lexeme = some op) : op.level?.getD 0 < Level.unary := by
  obtain ⟨precedence, -, -, few, same⟩ := level?_of_known known
  simp only [same, Option.getD_some, Level.nullish, Level.unary]
  omega

/-- Of the binary operators only `in` is an `in`. -/
theorem BinaryOperator.showsIn {op : BinaryOperator} (known : ofLexeme? op.lexeme = some op) :
    op.lexeme.Written ∧ ShowsIn [op.lexeme.read] (op = .isIn) := by
  cases op with
  | other => cases known
  | isIn => exact ⟨trivial, .word⟩
  | _ => exact ⟨trivial, .neutral (by decide)⟩

theorem UpdateOperator.ends {op : UpdateOperator} (known : ofLexeme? op.lexeme = some op)
    (t : Text) :
    op.lexeme.Ends t := by
  cases op with
  | other => cases known
  | _ => exact Punctuator.ends_of_mem_singles (by decide) t

/-- Behind a symbol only `=` and, behind a sign, another sign would make a longer one. -/
theorem UnaryOperator.ends {op : UnaryOperator} {t : Text} (known : ofLexeme? op.lexeme = some op)
    (noWord : ¬ op.isWord = true) (noAssign : t.headIs '=' = false)
    (noSign : op = .plus ∨ op = .minus → ¬ t.headIs '+' = true ∧ ¬ t.headIs '-' = true) :
    op.lexeme.Ends t := by
  cases op with
  | not =>
    have stops : Punctuator.stops .bang = ['=', '='] := by decide
    exact ⟨by simp [stops, noAssign], by simp⟩
  | bitNot => exact Punctuator.ends_of_mem_singles (by decide) t
  | plus =>
    have stops : Punctuator.stops .plus = ['+', '='] := by decide
    exact ⟨by simp [stops, noAssign, noSign], by simp⟩
  | minus =>
    have stops : Punctuator.stops .minus = ['-', '='] := by decide
    exact ⟨by simp [stops, noAssign, noSign], by simp⟩
  | typeOf | void | delete => exact absurd rfl noWord
  | other => cases known

/-- A layout that a unary operator can stand in front of. -/
structure Layout.Opens (layout : Layout) : Prop where
  some : layout.text ≠ []
  noAssign : layout.text.headIs '=' = false

theorem Layout.opens_lexeme {x : Lexeme} (written : x.Written) (other : x.source.headIs '=' = false)
    (rest : Layout) : Layout.Opens (.lexeme x :: rest) := by
  refine ⟨?_, ?_⟩ <;> rw [text_cons, Piece.text]
  · simp [written.source_ne_nil]
  · rw [Text.headIs_append written.source_ne_nil, other]

theorem Layout.opens_name {name : Text} (word : name.isWord = true) : (Layout.name name).Opens := by
  refine opens_lexeme (x := .identifier name) word ?_ []
  cases name with
  | nil => rfl
  | cons p rest =>
    simp only [Text.isWord, Bool.and_eq_true] at word
    exact CodePoint.not_is_of_has word.1 (by decide)

theorem Layout.Opens.append {left : Layout} (opens : left.Opens) (right : Layout) :
    (left ++ right).Opens := by
  refine ⟨?_, ?_⟩ <;> rw [text_append]
  · simp [opens.some]
  · rw [Text.headIs_append opens.some, opens.noAssign]

namespace Layout.Shows

variable {left right argument : Layout} {follow : Text → Prop} {shown shown' : Bool}

/-- A unary operator stands apart from an operand that it could be read together with. -/
theorem unary {op : UnaryOperator} (known : UnaryOperator.ofLexeme? op.lexeme = some op)
    (opens : argument.Opens) (shows : argument.Shows follow shown) :
    (layoutUnary op argument).Shows follow shown := by
  obtain ⟨written, neutral⟩ := UnaryOperator.isNeutral known
  simp only [layoutUnary]
  split
  next => exact (apart written (.neutral neutral)).andThen shows
  next joined =>
    simp only [Bool.or_eq_true, Bool.and_eq_true, decide_eq_true_eq, not_or, not_and] at joined
    refine (lexeme written neutral).append shows fun t _ => UnaryOperator.ends known joined.1 ?_ ?_
    · rw [Text.headIs_append opens.some, opens.noAssign]
    · rw [Text.headIs_append opens.some, Text.headIs_append opens.some]
      exact joined.2

/-- An operator between two operands. -/
theorem operation {op : BinaryOperator} (known : BinaryOperator.ofLexeme? op.lexeme = some op)
    (first : left.Shows Text.Marks shown) (second : right.Shows follow shown') :
    (operation op left right).Shows follow (shown || op = .isIn || shown') := by
  obtain ⟨written, row⟩ := BinaryOperator.showsIn known
  exact (first.spaced.andThen (apart written row)).andThen second

end Layout.Shows

/-! ## Expressions -/

namespace Expression

/-- A text that may stand behind an expression: a point only behind one that binds tightly and is no
number. -/
def Meets (e : Expression Text) (noIn : Bool) (t : Text) : Prop :=
  t.Marks ∨ t.headIs '.' = true ∧ absorbsPoint e = false ∧ Level.call ≤ e.rank noIn

/-- The scanner finds the lexemes of an expression again, and `opensIn` tells whether there is an
`in` outside its brackets. -/
structure Shown (e : Expression Text) : Prop where
  opens : ∀ level noIn, (e.pieces level noIn).Opens
  shows : ∀ level noIn, (e.pieces level noIn).Shows (e.Meets noIn) (e.opensIn noIn)

variable {e : Expression Text} {required : Nat} {noIn : Bool} {t : Text}

theorem Meets.marks (meets : e.Meets noIn t) (loose : e.rank noIn < Level.call) : t.Marks :=
  meets.resolve_right fun ⟨_, _, tight⟩ => absurd loose (Nat.not_lt.mpr tight)

theorem Meets.endsWord (meets : e.Meets noIn t) : t.EndsWord := by
  rcases meets with marks | ⟨point, -, -⟩
  · exact marks.endsWord
  · cases t with
    | nil => rfl
    | cons p rest =>
      cases p with
      | surrogate => rfl
      | scalar c =>
        rw [Text.headIs, CodePoint.is, beq_iff_eq] at point
        subst point
        exact (by decide : isIdentifierPart '.' = false)

namespace Shown

/-- An operand stands bare or in parentheses. -/
theorem wrapShows (shown : e.Shown) (required level : Nat) (noIn : Bool) (follow : Text → Prop)
    (meets : required ≤ e.rank noIn → ∀ t, follow t → e.Meets noIn t) :
    (wrap required (e.pieces level noIn, e.rank noIn)).Shows follow
      (bare required (e.opensIn noIn, e.rank noIn)) := by
  unfold wrap bare
  by_cases loose : e.rank noIn < required
  · simp only [loose, if_true, decide_eq_false (Nat.not_le.mpr loose), Bool.false_and]
    exact .parens ((shown.shows level noIn).mono fun t marks => .inl marks).closes
  · have tight := Nat.le_of_not_lt loose
    simp only [loose, if_false, decide_eq_true tight, Bool.true_and]
    exact (shown.shows level noIn).mono (meets tight)

theorem inside (shown : e.Shown) (required level : Nat) (noIn : Bool) :
    (wrap required (e.pieces level noIn, e.rank noIn)).Shows Text.Marks
      (bare required (e.opensIn noIn, e.rank noIn)) :=
  shown.wrapShows required level noIn _ fun _ _ => .inl

theorem insideTight (shown : e.Shown) (required level : Nat) (noIn : Bool)
    (tight : Level.isIn < required) :
    (wrap required (e.pieces level noIn, e.rank noIn)).Shows Text.Marks false := by
  have inside := shown.inside required level noIn
  rwa [bare_of_lt tight] at inside

theorem closes (shown : e.Shown) (level : Nat) (noIn : Bool) :
    (e.pieces level noIn).Closes Text.Marks :=
  ((shown.shows level noIn).mono fun _ => .inl).closes

theorem wrapOpens (shown : e.Shown) (required level : Nat) (noIn : Bool) :
    (wrap required (e.pieces level noIn, e.rank noIn)).Opens := by
  unfold wrap
  split
  · exact ⟨List.cons_ne_nil _ _, rfl⟩
  · exact shown.opens level noIn

/-- An object in front of a member access. -/
theorem insideObject (shown : e.Shown) (level : Nat) (noIn : Bool) :
    (wrap (if absorbsPoint e then Level.always else Level.call)
      (e.pieces level noIn, e.rank noIn)).Shows
      (fun t => t.Marks ∨ t.headIs '.' = true) false := by
  have inside := shown.wrapShows (if absorbsPoint e then Level.always else Level.call) level noIn
    (fun t => t.Marks ∨ t.headIs '.' = true) fun tight t follows => ?_
  · rwa [bare_of_lt (by split <;> decide)] at inside
  · rcases follows with marks | point
    · exact .inl marks
    · cases numeric : absorbsPoint e with
      | false =>
        rw [numeric] at tight
        exact .inr ⟨point, numeric, tight⟩
      | true =>
        rw [numeric] at tight
        cases e with
        | literal => exact absurd tight (show ¬ Level.always ≤ Level.primary by decide)
        | _ => cases numeric

end Shown

/-! ### Lists -/

theorem shows_commas {es : List (Expression Text)} (each : ∀ e ∈ es, e.Shown) (level : Nat)
    (noIn : Bool) : (Layout.commas (piecesList es level noIn)).Shows Text.Marks
      (opensInList es noIn) := by
  induction es generalizing noIn with
  | nil => exact .nil
  | cons e es ih =>
    obtain ⟨first, later⟩ := List.forall_mem_cons.mp each
    exact .commas_cons (first.inside Level.assignment level noIn) (ih later _)

theorem closes_elements {es : List (Option (Expression Text))} (each : ∀ e, some e ∈ es → e.Shown)
    (level : Nat) (noIn : Bool) :
    (Layout.commas (piecesElements es level noIn)).Closes Text.Marks := by
  induction es generalizing noIn with
  | nil => exact Layout.Shows.nil.closes
  | cons item es ih =>
    have later := ih fun e member => each e (List.mem_cons_of_mem _ member)
    cases item with
    | none =>
      obtain ⟨_, rest⟩ := later noIn
      exact ⟨_, .commas_cons .nil rest⟩
    | some e =>
      obtain ⟨_, rest⟩ := later (past noIn (e.tally 0 1))
      exact ⟨_, .commas_cons ((each e List.mem_cons_self).inside Level.assignment level noIn) rest⟩

end Expression

def Property.Shown (p : Property Text) : Prop := ∀ level noIn,
  (p.pieces level noIn).Closes Text.Marks

def Declarator.Shown (d : Declarator Text) : Prop := ∀ level noIn,
  (d.pieces level noIn).Shows Text.Marks (d.opensIn noIn)

def Declaration.Shown (d : Declaration Text) : Prop := ∀ level noIn,
  (d.pieces level noIn).Closes fun _ => True

def LoopHead.Shown (head : LoopHead Text) : Prop := ∀ required level noIn,
  (head.pieces required level noIn).Shows Text.Marks (head.opensIn required noIn)

def Statement.Shown (s : Statement Text) : Prop := ∀ level noIn,
  (s.pieces level noIn).Closes fun _ => True

def CatchClause.Shown : CatchClause Text → Prop
  | .mk param body => (∀ n ∈ param, Text.IsName n) ∧ ∀ s ∈ body, s.Shown

def SwitchCase.Shown : SwitchCase Text → Prop
  | .mk test consequent => (∀ e ∈ test, e.Shown) ∧ ∀ s ∈ consequent, s.Shown

theorem Property.closes_list {ps : List (Property Text)} (each : ∀ p ∈ ps, p.Shown) (level : Nat)
    (noIn : Bool) : ∀ item ∈ piecesList ps level noIn, item.Closes Text.Marks := by
  induction ps generalizing noIn with
  | nil => nofun
  | cons p ps ih =>
    obtain ⟨first, later⟩ := List.forall_mem_cons.mp each
    exact List.forall_mem_cons.mpr ⟨first level noIn, ih later _⟩

theorem Statement.closes_list {ss : List (Statement Text)} (each : ∀ s ∈ ss, s.Shown) (level : Nat)
    (noIn : Bool) : ∀ line ∈ piecesList ss level noIn, line.Closes fun _ => True := by
  induction ss generalizing noIn with
  | nil => nofun
  | cons s ss ih =>
    obtain ⟨first, later⟩ := List.forall_mem_cons.mp each
    exact List.forall_mem_cons.mpr ⟨first level noIn, ih later _⟩

theorem Declarator.shows_commas {ds : List (Declarator Text)} (each : ∀ d ∈ ds, d.Shown)
    (level : Nat)
    (noIn : Bool) : (Layout.commas (piecesList ds level noIn)).Shows Text.Marks
      (opensInList ds noIn) := by
  induction ds generalizing noIn with
  | nil => exact .nil
  | cons d ds ih =>
    obtain ⟨first, later⟩ := List.forall_mem_cons.mp each
    exact .commas_cons (first level noIn) (ih later _)

/-- Statements between braces. -/
theorem Layout.Shows.body {body : List (Statement Text)} (each : ∀ s ∈ body, s.Shown) (level : Nat)
    (noIn : Bool) {follow : Text → Prop} :
    (Layout.braces level (Statement.piecesList body (level + 1) noIn)).Shows follow false :=
  .braces (Statement.closes_list each (level + 1) noIn)

theorem Layout.Shows.params {names : List Text} (each : ∀ n ∈ names, n.IsName)
    {follow : Text → Prop} : (layoutParams names).Shows follow false := by
  refine .parens ?_
  induction names with
  | nil => exact Layout.Shows.nil.closes
  | cons name names ih =>
    obtain ⟨first, later⟩ := List.forall_mem_cons.mp each
    obtain ⟨_, rest⟩ := ih later
    exact ⟨_, .commas_cons ((Layout.Shows.name first).mono fun _ marks => marks.endsWord) rest⟩

namespace Expression.Shown

variable {params : List Text} {callee left right test consequent alternate : Expression Text}
  {arguments : List (Expression Text)} {body : List (Statement Text)}

/-! ### Names and literals -/

theorem identifier {name : Text} (isName : name.IsName) : (Expression.identifier name).Shown where
  opens _ _ := Layout.opens_name isName.word
  shows _ _ := (Layout.Shows.name isName).mono fun _ meets => meets.endsWord

theorem number {value : Number} {raw : Text} (spelling : Numeral.IsSpelling raw) :
    (Expression.literal (.number value) (some raw)).Shown where
  opens _ _ := Layout.opens_lexeme (x := .number raw) spelling
    (spelling.not_headIs (by decide) (by decide)) []
  shows _ _ := (Layout.Shows.lexeme (x := .number raw) spelling rfl).mono fun _ meets =>
    meets.resolve_right nofun

theorem string {value : Text} : (Expression.literal (.string value) none).Shown where
  opens _ _ := ⟨List.cons_ne_nil _ _, rfl⟩
  shows _ _ := (Layout.Shows.lexeme (x := .string value) trivial rfl).mono fun _ _ => trivial

/-- A literal that is a reserved word. -/
theorem word {e : Expression Text} {k : Keyword}
    (pieces : ∀ level noIn, e.pieces level noIn = Layout.word k)
    (shut : ∀ noIn, e.opensIn noIn = false)
    (other : k ≠ .in) : e.Shown where
  opens level noIn := by
    rw [pieces]
    refine Layout.opens_lexeme (x := .keyword k) trivial ?_ []
    cases k <;> rfl
  shows level noIn := by
    rw [pieces, shut]
    exact (Layout.Shows.word other).mono fun _ meets => meets.endsWord

theorem boolean {value : Bool} : (Expression.literal (.boolean value) none).Shown := by
  cases value with
  | true => exact word (k := .true) (fun _ _ => rfl) (fun _ => rfl) (by decide)
  | false => exact word (k := .false) (fun _ _ => rfl) (fun _ => rfl) (by decide)

/-! ### Brackets -/

theorem array {elements : List (Option (Expression Text))}
    (each : ∀ e, some e ∈ elements → e.Shown) : (Expression.array elements).Shown where
  opens _ _ := ⟨List.cons_ne_nil _ _, rfl⟩
  shows level noIn := by
    obtain ⟨_, items⟩ := closes_elements each level noIn
    refine .brackets ?_
    split
    · exact ⟨_, items.append (.mark (p := .comma) (by decide)) fun t _ =>
        Text.startsIn_scalar (by decide)⟩
    · simpa using items.closes

theorem object {properties : List (Property Text)} (each : ∀ p ∈ properties, p.Shown) :
    (Expression.object properties).Shown where
  opens level noIn := by
    rw [Expression.pieces]
    cases Property.piecesList properties (level + 1) noIn <;> exact ⟨List.cons_ne_nil _ _, rfl⟩
  shows level noIn := .entries (Property.closes_list each (level + 1) noIn)

theorem function {name : Option Text} (named : ∀ n ∈ name, Text.IsName n)
    (names : ∀ n ∈ params, Text.IsName n) (each : ∀ s ∈ body, s.Shown) :
    (Expression.function name params body).Shown where
  opens _ _ := ⟨List.cons_ne_nil _ _, rfl⟩
  shows level noIn := by
    have head : (Layout.word .function ++ Layout.space).Shows (fun _ => True) false :=
      (Layout.Shows.word (by decide)).append .space fun _ _ => rfl
    have title : Layout.Shows (name.elim [] Layout.name) Text.EndsWord false := by
      cases name with
      | none => exact .nil
      | some n => exact .name (named n rfl)
    have front := (head.andThen title).append (Layout.Shows.params names) fun _ (_ : True) => rfl
    exact (front.andThen .space).andThen (.body each level noIn)

/-- An arrow behind its parameters. -/
theorem arrowFront (names : ∀ n ∈ params, Text.IsName n) :
    (layoutParams params ++ Layout.space ++ Layout.mark .arrow ++ Layout.space).Shows
      (fun _ => True) false :=
  (((Layout.Shows.params names).andThen .space).andThen
    (.lexeme (x := .punctuator .arrow) trivial rfl)).append .space fun t _ =>
      Lexeme.ends_blank _ (.inl rfl) t

theorem arrow {body : Expression Text} (names : ∀ n ∈ params, Text.IsName n) (shown : body.Shown) :
    (Expression.arrow params body).Shown where
  opens _ _ := ⟨List.cons_ne_nil _ _, rfl⟩
  shows level noIn := by
    have result : (wrapBody body (body.pieces level noIn, body.rank noIn)).Shows Text.Marks
        (bare Level.assignment (body.opensIn noIn, body.rank noIn)) := by
      cases body with
      | object => exact .parens (shown.inside Level.assignment level noIn).closes
      | _ => exact shown.inside Level.assignment level noIn
    exact ((arrowFront names).andThen result).mono fun _ meets =>
      meets.marks (show Level.assignment < Level.call by decide)

theorem arrowBlock (names : ∀ n ∈ params, Text.IsName n) (each : ∀ s ∈ body, s.Shown) :
    (Expression.arrowBlock params body).Shown where
  opens _ _ := ⟨List.cons_ne_nil _ _, rfl⟩
  shows level noIn := (arrowFront names).andThen (.body each level noIn)

/-! ### Operators -/

theorem unary {op : UnaryOperator} (known : UnaryOperator.ofLexeme? op.lexeme = some op)
    (shown : left.Shown) : (Expression.unary op left).Shown where
  opens _ _ := by
    refine Layout.opens_lexeme (UnaryOperator.isNeutral known).1 ?_ _
    cases op with
    | other => cases known
    | _ => rfl
  shows level noIn :=
    (Layout.Shows.unary known (shown.wrapOpens Level.unary level noIn)
      (shown.insideTight Level.unary level noIn (by decide))).mono fun _ meets =>
        meets.marks (show Level.unary < Level.call by decide)

theorem update {op : UpdateOperator} {inFront : Bool}
    (known : UpdateOperator.ofLexeme? op.lexeme = some op) (shown : left.Shown) :
    (Expression.update op inFront left).Shown := by
  obtain ⟨written, neutral⟩ := UpdateOperator.isNeutral known
  have step : ∀ follow, Layout.Shows [.lexeme op.lexeme] follow false := fun follow =>
    (Layout.Shows.lexeme written neutral).mono fun t _ => UpdateOperator.ends known t
  cases inFront with
  | true =>
    refine ⟨fun level noIn => Layout.opens_lexeme written ?_ _, fun level noIn => ?_⟩
    · cases op with
      | other => cases known
      | _ => rfl
    · exact ((step _).andThen (shown.insideTight Level.unary level noIn (by decide))).mono
        fun _ meets => meets.marks (show Level.unary < Level.call by decide)
  | false =>
    refine ⟨fun level noIn => (shown.wrapOpens Level.call level noIn).append _,
      fun level noIn => ?_⟩
    refine (shown.insideTight Level.call level noIn (by decide)).append (step _) fun t _ => ?_
    cases op with
    | other => cases known
    | _ => exact Text.startsIn_scalar (by decide)

section Operation

variable {op : BinaryOperator} (known : BinaryOperator.ofLexeme? op.lexeme = some op)

include known

theorem level_lt_call : op.level?.getD 0 < Level.call :=
  Nat.lt_trans (BinaryOperator.level_lt_unary known) (by decide)

theorem binary (first : left.Shown) (second : right.Shown) :
    (Expression.binary op left right).Shown where
  opens level noIn := by
    rw [Expression.pieces]
    split
    · exact ⟨List.cons_ne_nil _ _, rfl⟩
    · exact (((first.wrapOpens _ level noIn).append _).append _).append _
  shows level noIn := by
    have whole := Layout.Shows.operation known
      (first.inside (operandLevels op (op.level?.getD 0)).1 level noIn)
      (second.inside (operandLevels op (op.level?.getD 0)).2 level (past noIn (left.tally 0 1)))
    rw [Expression.pieces, Expression.opensIn]
    split
    · next enclosed =>
      rw [enclosed]
      exact .parens whole.closes
    · next outside =>
      rw [Bool.not_eq_true] at outside
      rw [outside]
      refine whole.mono fun _ meets => meets.marks ?_
      rw [rank_binary, outside]
      exact level_lt_call known

theorem logical (isLogical : op.isLogical = true) (first : left.Shown) (second : right.Shown) :
    (Expression.logical op left right).Shown where
  opens level noIn := (((first.wrapOpens _ level noIn).append _).append _).append _
  shows level noIn := by
    have whole := Layout.Shows.operation known
      (first.inside (if mixesNullish op left then Level.always
        else (operandLevels op (op.level?.getD 0)).1) level noIn)
      (second.inside (if mixesNullish op right then Level.always
        else (operandLevels op (op.level?.getD 0)).2) level (past noIn (left.tally 0 1)))
    rw [decide_eq_false (BinaryOperator.ne_isIn_of_isLogical isLogical), Bool.or_false] at whole
    exact whole.mono fun _ meets => meets.marks (level_lt_call known)

end Operation

theorem assignment {op : AssignmentOperator}
    (known : AssignmentOperator.ofLexeme? op.lexeme = some op) (first : left.Shown)
    (second : right.Shown) : (Expression.assignment op left right).Shown where
  opens level noIn := (((first.wrapOpens _ level noIn).append _).append _).append _
  shows level noIn := by
    obtain ⟨written, neutral⟩ := AssignmentOperator.isNeutral known
    have front : Layout.Shows _ (fun _ => True) _ :=
      (first.insideTight Level.call level noIn (by decide)).spaced
    have whole := (front.andThen (.apart written (.neutral neutral))).andThen
      (second.inside Level.assignment level (past noIn (left.tally 0 1)))
    exact whole.mono fun _ meets => meets.marks (show Level.assignment < Level.call by decide)

theorem conditional (first : test.Shown) (second : consequent.Shown) (third : alternate.Shown) :
    (Expression.conditional test consequent alternate).Shown where
  opens level noIn := ((((((((first.wrapOpens _ level noIn).append _).append _).append _).append
    _).append _).append _).append _).append _
  shows level noIn := by
    have choice : Layout.Shows _ (fun _ => True) _ :=
      (first.inside Level.nullish level noIn).symbol (p := .question) rfl
    have middle : Layout.Shows _ (fun _ => True) _ :=
      (choice.andThen (second.inside Level.assignment level
        (past noIn (test.tally 0 1)))).symbol (p := .colon) rfl
    have whole := middle.andThen (third.inside Level.assignment level
      (past (past noIn (test.tally 0 1)) (consequent.tally 0 1)))
    exact whole.mono fun _ meets => meets.marks (show Level.conditional < Level.call by decide)

/-! ### Calls, members and sequences -/

theorem call (first : callee.Shown) (each : ∀ e ∈ arguments, e.Shown) :
    (Expression.call callee arguments).Shown where
  opens level noIn := (first.wrapOpens _ level noIn).append _
  shows level noIn :=
    (first.insideTight Level.call level noIn (by decide)).append
      (.parens (shows_commas each level (past noIn (callee.tally 0 1))).closes) fun t _ =>
        Text.startsIn_scalar (by decide)

theorem new (first : callee.Shown) (each : ∀ e ∈ arguments, e.Shown) :
    (Expression.new callee arguments).Shown where
  opens _ _ := ⟨List.cons_ne_nil _ _, rfl⟩
  shows level noIn := by
    have head : (Layout.word .new ++ Layout.space).Shows (fun _ => True) false :=
      (Layout.Shows.word (by decide)).append .space fun _ _ => rfl
    have target := first.insideTight (if containsCall callee then Level.always else Level.member)
      level noIn (by split <;> decide)
    exact (head.andThen target).append
      (.parens (shows_commas each level (past noIn (callee.tally 0 1))).closes) fun t _ =>
        Text.startsIn_scalar (by decide)

theorem dotted {name : Text} (shown : left.Shown) (word : name.isWord = true) :
    (Expression.member left (.identifier name) false).Shown where
  opens level noIn := (shown.wrapOpens _ level noIn).append _
  shows level noIn :=
    ((shown.insideObject level noIn).append (.member word) fun _ _ => .inr rfl).mono
      fun _ meets => meets.endsWord

theorem computed (first : left.Shown) (second : right.Shown) :
    (Expression.member left right true).Shown where
  opens level noIn := (first.wrapOpens _ level noIn).append _
  shows level noIn :=
    (first.insideObject level noIn).append
      (.brackets (second.closes level (past noIn (left.tally 0 1)))) fun t _ =>
        .inl (Text.startsIn_scalar (by decide))

theorem sequence (long : 2 ≤ arguments.length) (each : ∀ e ∈ arguments, e.Shown) :
    (Expression.sequence arguments).Shown where
  opens level noIn := by
    match arguments with
    | first :: second :: more =>
      exact ((((each first List.mem_cons_self).wrapOpens _ level noIn).append _).append _).append _
  shows level noIn := (shows_commas each level noIn).mono fun _ meets =>
    meets.marks (show Level.sequence < Level.call by decide)

end Expression.Shown

/-! ## Properties and declarations -/

def Expression.KeyShown (key : Expression Text) (computed : Bool) : Prop := ∀ level noIn,
  (wrapKey key computed (key.pieces level noIn, key.rank noIn)).Closes Text.Marks

namespace Expression.KeyShown

/-- A key can be spelled like a reserved word, even `in`. -/
theorem name {name : Text} (word : name.isWord = true) : KeyShown (.identifier name) false := by
  intro level noIn
  have row : ∃ shown, ShowsIn [(Lexeme.identifier name).read] shown := by
    cases found : Keyword.ofText? name with
    | none => exact ⟨_, .neutral (by simp [Lexeme.read, found, Lexeme.isNeutral])⟩
    | some k =>
      have read : (Lexeme.identifier name).read = .keyword k := by simp [Lexeme.read, found]
      rw [read]
      by_cases isIn : k = .in
      · subst isIn
        exact ⟨_, .word⟩
      · exact ⟨_, .neutral (by simpa [Lexeme.isNeutral] using isIn)⟩
  obtain ⟨shown, row⟩ := row
  exact ⟨shown, fun t marks => ⟨word, marks.endsWord, trivial⟩, row⟩

theorem string {value : Text} : KeyShown (.literal (.string value) none) false := fun _ _ =>
  ⟨_, (Layout.Shows.lexeme (x := .string value) trivial rfl).mono fun _ _ => trivial⟩

theorem number {value : Number} {raw : Text} (spelling : Numeral.IsSpelling raw) :
    KeyShown (.literal (.number value) (some raw)) false := fun _ _ =>
  ⟨_, Layout.Shows.lexeme (x := .number raw) spelling rfl⟩

theorem computed {key : Expression Text} (shown : key.Shown) : KeyShown key true :=
  fun level noIn => ⟨_, .brackets (shown.inside Level.assignment level noIn).closes⟩

end Expression.KeyShown

namespace Property.Shown

variable {key value : Expression Text} {computed : Bool} {params : List Text}
  {body : List (Statement Text)}

theorem pair (named : key.KeyShown computed) (shown : value.Shown) :
    (Property.mk key value computed false false).Shown := by
  intro level noIn
  obtain ⟨_, front⟩ := named level noIn
  have colon := front.append (.mark (p := .colon) (by decide)) fun t (_ : True) =>
    Text.startsIn_scalar (by decide)
  exact ⟨_, (colon.andThen .space).andThen (shown.inside Level.assignment level _)⟩

theorem method (named : key.KeyShown computed) (names : ∀ n ∈ params, Text.IsName n)
    (each : ∀ s ∈ body, s.Shown) :
    (Property.mk key (.function none params body) computed false true).Shown := by
  intro level noIn
  obtain ⟨_, front⟩ := named level noIn
  have head := front.append (.params names) fun t (_ : True) => Text.startsIn_scalar (by decide)
  exact ⟨_, (head.andThen .space).andThen (.body each level _)⟩

theorem shorthand {name : Text} (isName : name.IsName) :
    (Property.mk (.identifier name) (.identifier name) false true false).Shown := by
  intro level noIn
  have text : (Layout.name name).text = name := List.append_nil name
  have same : (Property.mk (.identifier name)
      (.identifier name) false true false).pieces level noIn =
      Layout.name name := if_pos text.symm
  rw [same]
  exact ⟨_, (Layout.Shows.name isName).mono fun _ marks => marks.endsWord⟩

end Property.Shown

theorem VariableKind.keyword_ne_in (kind : VariableKind) : kind.keyword ≠ .in := by
  cases kind <;> decide

theorem Declarator.Shown.mk {name : Text} {init : Option (Expression Text)} (isName : name.IsName)
    (each : ∀ e ∈ init, e.Shown) : (Declarator.mk name init).Shown := by
  intro level noIn
  have front : (Layout.name name).Shows Text.Marks false :=
    (Layout.Shows.name isName).mono fun _ marks => marks.endsWord
  cases init with
  | none => exact front
  | some e => exact (front.symbol (p := .assign) rfl).andThen ((each e rfl).inside _ level noIn)

theorem Declaration.Shown.function {name : Text} {params : List Text} {body : List (Statement Text)}
    (isName : name.IsName) (names : ∀ n ∈ params, Text.IsName n) (each : ∀ s ∈ body, s.Shown) :
    (Declaration.function name params body).Shown := by
  intro level noIn
  have title := (Layout.Shows.wordSpaced (k := .function) (by decide)).andThen (.name isName)
  have front := title.append (.params names) fun _ (_ : True) => rfl
  exact ⟨_, (front.andThen .space).andThen (.body each level noIn)⟩

theorem Declaration.Shown.variables {kind : VariableKind} {declarators : List (Declarator Text)}
    (each : ∀ d ∈ declarators, d.Shown) : (Declaration.variables kind declarators).Shown := by
  intro level noIn
  have front := (Layout.Shows.wordSpaced kind.keyword_ne_in).andThen
    (Declarator.shows_commas each level noIn)
  exact ⟨_, front.append (.mark (p := .semicolon) (by decide)) fun t _ =>
    Text.startsIn_scalar (by decide)⟩

theorem LoopHead.Shown.variables {kind : VariableKind} {declarators : List (Declarator Text)}
    (each : ∀ d ∈ declarators, d.Shown) : (LoopHead.variables kind declarators).Shown :=
  fun _ level noIn => (Layout.Shows.wordSpaced kind.keyword_ne_in).andThen
    (Declarator.shows_commas each level noIn)

theorem LoopHead.Shown.expression {value : Expression Text} (shown : value.Shown) :
    (LoopHead.expression value).Shown := shown.inside

/-! ## Statements -/

theorem Expression.closes_option {option : Option (Expression Text)} (each : ∀ e ∈ option, e.Shown)
    (level : Nat) (noIn : Bool) : (piecesOption option level noIn).Closes Text.Marks := by
  cases option with
  | none => exact Layout.Shows.nil.closes
  | some e =>
    obtain ⟨_, value⟩ := (each e rfl).closes level noIn
    exact ⟨_, Layout.Shows.space.andThen value⟩

theorem bodyLead_shows (s : Statement Text) (level : Nat) {follow : Text → Prop} :
    (bodyLead s level).Shows follow false := by
  cases s with
  | block => exact .space
  | empty => exact .nil
  | _ => exact .newline _

namespace Statement.Shown

variable {value test discriminant : Expression Text} {body consequent : Statement Text}
  {lines : List (Statement Text)}

/-- The body of a compound statement stands apart from a word in front of it. -/
theorem asBody (shown : body.Shown) (level : Nat) (noIn : Bool) :
    (bodyLead body level ++ body.pieces (bodyLevel body level) noIn).Closes (fun _ => True) ∧
      ∀ t, Text.EndsWord ((bodyLead body level ++
        body.pieces (bodyLevel body level) noIn).text ++ t) := by
  obtain ⟨_, inner⟩ := shown (bodyLevel body level) noIn
  refine ⟨⟨_, (bodyLead_shows body level).andThen inner⟩, fun t => ?_⟩
  cases body <;> rfl

/-- The statement behind an `else`. -/
theorem asAlternate (shown : body.Shown) (level : Nat) (noIn : Bool) :
    ((if isIf body then Layout.space else bodyLead body level) ++
      body.pieces (if isIf body then level else bodyLevel body level) noIn).Closes (fun _ => True) ∧
      ∀ t, Text.EndsWord (((if isIf body then Layout.space else bodyLead body level) ++
        body.pieces (if isIf body then level else bodyLevel body level) noIn).text ++ t) := by
  cases isIf body with
  | false => exact shown.asBody level noIn
  | true =>
    obtain ⟨_, inner⟩ := shown level noIn
    exact ⟨⟨_, Layout.Shows.space.andThen inner⟩, fun _ => rfl⟩

/-- A statement behind a head that ends in front of every text. -/
theorem behind (shown : body.Shown) (level : Nat) (noIn : Bool) {head : Layout}
    (closes : head.Closes fun _ => True) :
    (head ++ bodyLead body level ++ body.pieces (bodyLevel body level) noIn).Closes
      fun _ => True := by
  obtain ⟨_, front⟩ := closes
  obtain ⟨_, inner⟩ := shown (bodyLevel body level) noIn
  exact ⟨_, (front.andThen (bodyLead_shows body level)).andThen inner⟩

/-- A reserved word with something in parentheses behind it. -/
theorem head {k : Keyword} (other : k ≠ .in) {inner : Layout} (inside : inner.Closes Text.Marks) :
    (Layout.word k ++ Layout.space ++ Layout.parens inner).Closes fun _ => True :=
  ⟨_, (Layout.Shows.wordSpaced other).andThen (.parens inside)⟩

/-- A semicolon behind an expression. -/
theorem ended {layout : Layout} (closes : layout.Closes Text.Marks) :
    (layout ++ Layout.mark .semicolon).Closes fun _ => True := by
  obtain ⟨_, shows⟩ := closes
  exact ⟨_, shows.append (.mark (p := .semicolon) (by decide)) fun t _ =>
    Text.startsIn_scalar (by decide)⟩

theorem declaration {value : Declaration Text} (shown : value.Shown) :
    (Statement.declaration value).Shown := fun level noIn => shown level noIn

theorem expression (shown : value.Shown) : (Statement.expression value).Shown := by
  intro level noIn
  refine ended ?_
  split
  · exact ⟨_, .parens (shown.closes level noIn)⟩
  · exact shown.closes level noIn

theorem block (each : ∀ s ∈ lines, s.Shown) : (Statement.block lines).Shown :=
  fun level noIn => ⟨_, .body each level noIn⟩

theorem «return» {argument : Option (Expression Text)} (each : ∀ e ∈ argument, e.Shown) :
    (Statement.return argument).Shown := by
  intro level noIn
  obtain ⟨_, item⟩ := Expression.closes_option each level noIn
  refine ended ⟨_, (Layout.Shows.word (by decide)).append item fun t marks => ?_⟩
  cases argument with
  | none => exact marks.endsWord
  | some e => rfl

theorem throw (shown : value.Shown) : (Statement.throw value).Shown := by
  intro level noIn
  obtain ⟨_, item⟩ := shown.closes level noIn
  exact ended ⟨_, (Layout.Shows.wordSpaced (by decide)).andThen item⟩

theorem jump {s : Statement Text} (isJump : s = .break ∨ s = .continue ∨ s = .empty) : s.Shown := by
  intro level noIn
  obtain rfl | rfl | rfl := isJump
  · exact ended ⟨_, (Layout.Shows.word (by decide)).mono fun _ marks => marks.endsWord⟩
  · exact ended ⟨_, (Layout.Shows.word (by decide)).mono fun _ marks => marks.endsWord⟩
  · exact ⟨_, .mark (by decide)⟩

/-! ### Conditions and loops -/

theorem ifThen (first : test.Shown) (second : consequent.Shown) :
    (Statement.if test consequent none).Shown := fun level noIn =>
  second.behind level _ (head (by decide) (first.closes level noIn))

theorem ifElse {alternate : Statement Text} (first : test.Shown) (second : consequent.Shown)
    (third : alternate.Shown) : (Statement.if test consequent (some alternate)).Shown := by
  intro level noIn
  obtain ⟨_, front⟩ := head (k := .if) (by decide) (first.closes level noIn)
  obtain ⟨⟨_, inner⟩, -⟩ := second.asBody level (past noIn (test.tally 0 1))
  obtain ⟨⟨_, other⟩, apart⟩ := third.asAlternate level
    (past (past noIn (test.tally 0 1)) (consequent.tally 0 1))
  rw [Statement.pieces, List.append_assoc (_ ++ Layout.word .else)]
  exact ⟨_, (((front.andThen inner).andThen (.gap _ level)).andThen
    (.word (by decide))).append other
    fun t _ => apart t⟩

theorem «while» (first : test.Shown) (second : body.Shown) : (Statement.while test body).Shown :=
  fun level noIn => second.behind level _ (head (by decide) (first.closes level noIn))

theorem doWhile (first : body.Shown) (second : test.Shown) :
    (Statement.doWhile body test).Shown := by
  intro level noIn
  obtain ⟨⟨_, inner⟩, apart⟩ := first.asBody level noIn
  have front := (Layout.Shows.word (k := .do) (by decide)).append inner fun t _ => apart t
  rw [← List.append_assoc] at front
  have again : Layout.Shows _ (fun _ => True) _ :=
    ((front.andThen (.gap (isBlock body) level)).andThen (.word (k := .while) (by decide))).append
      .space fun _ _ => rfl
  exact ended ⟨_, again.andThen (.parens (second.closes level (past noIn (body.tally 0 1))))⟩

theorem «for» {init : Option (LoopHead Text)} {second third : Option (Expression Text)}
    (first : ∀ head ∈ init, head.Shown) (testShown : ∀ e ∈ second, e.Shown)
    (updateShown : ∀ e ∈ third, e.Shown) (bodyShown : body.Shown) :
    (Statement.for init second third body).Shown := by
  intro level noIn
  refine bodyShown.behind level _ (head (by decide) ?_)
  have clause : (LoopHead.clausePieces init level).Closes Text.Marks := by
    cases init with
    | none => exact Layout.Shows.nil.closes
    | some head => exact (first head rfl Level.sequence level true).closes
  obtain ⟨_, front⟩ := ended clause
  obtain ⟨_, middle⟩ := Expression.closes_option testShown level (init.elim noIn fun _ => false)
  obtain ⟨_, checked⟩ := ended ⟨_, front.andThen middle⟩
  obtain ⟨_, last⟩ := Expression.closes_option updateShown level
    (past (init.elim noIn fun _ => false) (Expression.tallyOption 0 1 second))
  exact ⟨_, checked.andThen last⟩

theorem forIn {left : LoopHead Text} (first : left.Shown) (second : value.Shown)
    (third : body.Shown) : (Statement.forIn left value body).Shown := by
  intro level noIn
  refine third.behind level _ (head (by decide) ?_)
  obtain ⟨_, right⟩ := second.closes level (past noIn (left.tally 0 1))
  have front : Layout.Shows _ (fun _ => True) _ :=
    ((first Level.postfixed level noIn).spaced.andThen .inWord).append .space fun _ _ => rfl
  exact ⟨_, front.andThen right⟩

theorem forOf {left : LoopHead Text} (first : left.Shown) (second : value.Shown)
    (third : body.Shown) : (Statement.forOf left value body).Shown := by
  intro level noIn
  refine third.behind level _ (head (by decide) ?_)
  have isName : Text.IsName (Text.ofString "of") := ⟨by decide, by decide⟩
  have front : Layout.Shows _ (fun _ => True) _ :=
    ((first Level.postfixed level noIn).spaced.andThen (.name isName)).append .space fun _ _ => rfl
  exact ⟨_, front.andThen (second.inside Level.assignment level (past noIn (left.tally 0 1)))⟩

/-! ### Statements with blocks -/

theorem closes_handler {handler : Option (CatchClause Text)}
    (shown : ∀ clause ∈ handler, clause.Shown) (level : Nat) (noIn : Bool) :
    (CatchClause.piecesOption handler level noIn).Closes fun _ => True := by
  match handler with
  | none => exact Layout.Shows.nil.closes
  | some (.mk param body) =>
    obtain ⟨named, each⟩ := shown _ rfl
    have caught : Layout.Shows
        (param.elim [] fun n => Layout.parens (Layout.name n) ++ Layout.space)
        (fun _ => True) false := by
      cases param with
      | none => exact .nil
      | some n =>
        exact (Layout.Shows.parens ⟨_, (Layout.Shows.name (named n rfl)).mono fun _ marks =>
          marks.endsWord⟩).andThen .space
    have front : Layout.Shows _ (fun _ => True) _ :=
      (Layout.Shows.space.andThen (.word (k := .catch) (by decide))).append .space fun _ _ => rfl
    exact ⟨_, (front.andThen caught).andThen (.body each level noIn)⟩

theorem closes_finalizer {finalizer : Option (List (Statement Text))}
    (shown : ∀ body ∈ finalizer, ∀ s ∈ body, s.Shown) (level : Nat) (noIn : Bool) :
    (Statement.piecesFinalizer finalizer level noIn).Closes fun _ => True := by
  cases finalizer with
  | none => exact Layout.Shows.nil.closes
  | some body =>
    have front : Layout.Shows _ (fun _ => True) _ :=
      (Layout.Shows.space.andThen (.word (k := .finally) (by decide))).append .space fun _ _ => rfl
    exact ⟨_, front.andThen (.body (shown body rfl) level noIn)⟩

theorem «try» {handler : Option (CatchClause Text)} {finalizer : Option (List (Statement Text))}
    (first : ∀ s ∈ lines, s.Shown) (second : ∀ clause ∈ handler, clause.Shown)
    (third : ∀ body ∈ finalizer, ∀ s ∈ body, s.Shown) :
    (Statement.try lines handler finalizer).Shown := by
  intro level noIn
  have front : Layout.Shows _ (fun _ => True) _ :=
    (Layout.Shows.wordSpaced (k := .try) (by decide)).andThen (.body first level noIn)
  obtain ⟨_, caught⟩ := closes_handler second level (past noIn (Statement.tallyList 0 1 lines))
  obtain ⟨_, finished⟩ := closes_finalizer third level
    (past (past noIn (Statement.tallyList 0 1 lines)) (CatchClause.tallyOption 0 1 handler))
  exact ⟨_, (front.andThen caught).andThen finished⟩

theorem closes_cases {cases : List (SwitchCase Text)} (each : ∀ c ∈ cases, c.Shown) (level : Nat)
    (noIn : Bool) : (SwitchCase.piecesList cases level noIn).Closes fun _ => True := by
  induction cases generalizing noIn with
  | nil => exact Layout.Shows.nil.closes
  | cons c cases ih =>
    obtain ⟨test, consequent⟩ := c
    obtain ⟨⟨tested, lines⟩, later⟩ := List.forall_mem_cons.mp each
    have below : ∀ noIn, Layout.Closes ((Statement.piecesList consequent (level + 2) noIn).flatMap
        (.newline (level + 2) :: ·)) fun _ => True := fun noIn =>
      Layout.Shows.lines (closes_list lines (level + 2) noIn)
    have colon {layout : Layout} (label : layout.Closes Text.Marks) :
        Layout.Closes (.newline (level + 1) :: layout ++ Layout.mark .colon) fun _ => True := by
      obtain ⟨_, label⟩ := label
      exact ⟨_, ((Layout.Shows.newline (level + 1)).andThen label).append
        (.mark (p := .colon) (by decide)) fun t _ => Text.startsIn_scalar (by decide)⟩
    cases test with
    | none =>
      obtain ⟨_, front⟩ := colon ⟨_, (Layout.Shows.word (k := .default) (by decide)).mono
        fun _ marks => marks.endsWord⟩
      obtain ⟨_, body⟩ := below noIn
      obtain ⟨_, rest⟩ := ih later (past noIn (Statement.tallyList 0 1 consequent))
      exact ⟨_, (front.andThen body).andThen rest⟩
    | some e =>
      obtain ⟨_, value⟩ := (tested e rfl).closes (level + 1) noIn
      obtain ⟨_, front⟩ := colon ⟨_,
        (Layout.Shows.wordSpaced (k := .case) (by decide)).andThen value⟩
      obtain ⟨_, body⟩ := below (past noIn (e.tally 0 1))
      obtain ⟨_, rest⟩ := ih later (past (past noIn (e.tally 0 1))
        (Statement.tallyList 0 1 consequent))
      exact ⟨_, (front.andThen body).andThen rest⟩

theorem switch {cases : List (SwitchCase Text)} (first : discriminant.Shown)
    (each : ∀ c ∈ cases, c.Shown) : (Statement.switch discriminant cases).Shown := by
  intro level noIn
  obtain ⟨_, front⟩ := head (k := .switch) (by decide) (first.closes level noIn)
  obtain ⟨_, inside⟩ := closes_cases each level (past noIn (discriminant.tally 0 1))
  have braces : Layout.Shows
      (if cases.isEmpty then Layout.mark .braceOpen ++ Layout.mark .braceClose
      else casesBraces level (SwitchCase.piecesList cases level
        (past noIn (discriminant.tally 0 1)))) (fun _ => True) false := by
    split
    · exact .noLines
    · exact .braced ⟨_, inside⟩ level
  exact ⟨_, (front.andThen .space).andThen braces⟩

end Statement.Shown

/-! ## Grammatical trees -/

mutual

theorem Expression.Grammatical.shown : ∀ {e : Expression Text}, e.Grammatical → e.Shown
  | _, .identifier isName => .identifier isName
  | _, .number spelling _ => .number spelling
  | _, .string => .string
  | _, .boolean => .boolean
  | _, .null => .word (k := .null) (fun _ _ => rfl) (fun _ => rfl) (by decide)
  | _, .this => .word (k := .this) (fun _ _ => rfl) (fun _ => rfl) (by decide)
  | _, .array each => .array fun e member => (each e member).shown
  | _, .object each => .object fun p member => (each p member).shown
  | _, .function named names each => .function named names fun s member => (each s member).shown
  | _, .arrow names body => .arrow names body.shown
  | _, .arrowBlock names each => .arrowBlock names fun s member => (each s member).shown
  | _, .unary known argument => .unary known argument.shown
  | _, .update known _ argument => .update known argument.shown
  | _, .binary known _ left right => .binary known left.shown right.shown
  | _, .logical known isLogical left right => .logical known isLogical left.shown right.shown
  | _, .assignment known _ left right => .assignment known left.shown right.shown
  | _, .conditional test consequent alternate =>
    .conditional test.shown consequent.shown alternate.shown
  | _, .call callee each => .call callee.shown fun e member => (each e member).shown
  | _, .new callee each => .new callee.shown fun e member => (each e member).shown
  | _, .dotted inner word => .dotted inner.shown word
  | _, .computed inner key => .computed inner.shown key.shown
  | _, .sequence long each => .sequence long fun e member => (each e member).shown

theorem Expression.IsKey.shown : ∀ {key : Expression Text} {computed : Bool},
    key.IsKey computed → key.KeyShown computed
  | _, _, .name word => .name word
  | _, _, .string => .string
  | _, _, .number spelling _ => .number spelling
  | _, _, .computed key => .computed key.shown

theorem Property.Grammatical.shown : ∀ {p : Property Text}, p.Grammatical → p.Shown
  | _, .pair key value => .pair key.shown value.shown
  | _, .method key names each => .method key.shown names fun s member => (each s member).shown
  | _, .shorthand isName => .shorthand isName

theorem Declarator.Grammatical.shown : ∀ {d : Declarator Text}, d.Grammatical → d.Shown
  | _, .mk isName each => .mk isName fun e member => (each e member).shown

theorem Declaration.Grammatical.shown : ∀ {d : Declaration Text}, d.Grammatical → d.Shown
  | _, .function isName names each => .function isName names fun s member => (each s member).shown
  | _, .variables _ _ each => .variables fun d member => (each d member).shown

theorem LoopHead.Grammatical.shown : ∀ {head : LoopHead Text}, head.Grammatical → head.Shown
  | _, .variables _ _ each => .variables fun d member => (each d member).shown
  | _, .expression value => .expression value.shown

theorem LoopHead.IsTarget.shown : ∀ {head : LoopHead Text}, head.IsTarget → head.Shown
  | _, .variable isName => .variables fun d member => by
    obtain rfl := List.mem_singleton.mp member
    exact .mk isName nofun
  | _, .expression _ value => .expression value.shown

theorem CatchClause.Grammatical.shown :
    ∀ {clause : CatchClause Text}, clause.Grammatical → clause.Shown
  | _, .mk named each => ⟨named, fun s member => (each s member).shown⟩

theorem SwitchCase.Grammatical.shown : ∀ {c : SwitchCase Text}, c.Grammatical → c.Shown
  | _, .mk test each =>
    ⟨fun e member => (test e member).shown, fun s member => (each s member).shown⟩

theorem Statement.Grammatical.shown : ∀ {s : Statement Text}, s.Grammatical → s.Shown
  | _, .declaration value => .declaration value.shown
  | _, .expression value => .expression value.shown
  | _, .block each => .block fun s member => (each s member).shown
  | _, .return each => .return fun e member => (each e member).shown
  | _, .ifThen test consequent => .ifThen test.shown consequent.shown
  | _, .ifElse test consequent _ alternate => .ifElse test.shown consequent.shown alternate.shown
  | _, .for head test update body =>
    .for (fun h member => (head h member).shown) (fun e member => (test e member).shown)
      (fun e member => (update e member).shown) body.shown
  | _, .forIn left right body => .forIn left.shown right.shown body.shown
  | _, .forOf left right body => .forOf left.shown right.shown body.shown
  | _, .while test body => .while test.shown body.shown
  | _, .doWhile body test => .doWhile body.shown test.shown
  | _, .break => .jump (.inl rfl)
  | _, .continue => .jump (.inr (.inl rfl))
  | _, .throw argument => .throw argument.shown
  | _, .try each handler finalizer _ =>
    .try (fun s member => (each s member).shown) (fun h member => (handler h member).shown)
      fun body member s inside => (finalizer body member s inside).shown
  | _, .switch discriminant each => .switch discriminant.shown fun c member => (each c member).shown
  | _, .empty => .jump (.inr (.inr rfl))

end

end LibraryDescriptor
