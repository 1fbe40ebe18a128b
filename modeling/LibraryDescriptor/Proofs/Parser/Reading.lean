import LibraryDescriptor.Proofs.Parser.Evaluation
import LibraryDescriptor.Proofs.Printer.OperatorLayout

/-!
# Reading a layout

How the functions of the grammar read the tokens of a layout in front of another token. Each level
of the grammar stops at the tokens that hold on to what stands before them less tightly than it
does.

* `Layout.Spells` — the tokens of a layout on one line.
* `Lexeme.hold` — how tightly a lexeme holds on to the expression in front of it.
* `Reads`, `ReadsChain`, `ReadsAccess` — a layout is read as an expression at a level.
-/

namespace LibraryDescriptor

/-! ## The tokens of a layout -/

structure Token.IsFlat (t : Token) : Prop where
  sameLine : t.mark.afterBreak = false
  noArrow : t.lexeme ≠ .punctuator .arrow

def Layout.Spells : Layout → List Token → Prop
  | [], ts => ts = []
  | .lexeme x :: layout, ts =>
    ∃ t rest, ts = t :: rest ∧ t.lexeme = x.read ∧ t.IsFlat ∧ Spells layout rest
  | .space :: layout, ts | .newline _ :: layout, ts => Spells layout ts

namespace Layout

variable {left right layout : Layout} {ts : List Token}

/-- A layout on one line without arrows is spelled by its tokens. -/
theorem spells_tokens {cursor : Cursor} (flat : layout.isFlat = true)
    (unbroken : cursor.broken = false) :
    layout.Spells (layout.tokens cursor) ∧ (cursor.after layout).broken = false := by
  induction layout generalizing cursor with
  | nil => exact ⟨rfl, unbroken⟩
  | cons piece layout ih =>
    cases piece with
    | newline => cases flat
    | space => exact ih flat unbroken
    | lexeme x =>
      simp only [isFlat_lexeme, Bool.and_eq_true, decide_eq_true_eq] at flat
      obtain ⟨spells, later⟩ := @ih (cursor.step (.lexeme x)) flat.2 rfl
      exact ⟨⟨_, _, rfl, rfl, ⟨unbroken, flat.1⟩, spells⟩, later⟩

theorem Spells.append (spells : (left ++ right).Spells ts) :
    ∃ as bs, ts = as ++ bs ∧ left.Spells as ∧ right.Spells bs := by
  induction left generalizing ts with
  | nil => exact ⟨[], ts, rfl, rfl, spells⟩
  | cons piece left ih =>
    cases piece with
    | space | newline => exact ih spells
    | lexeme x =>
      obtain ⟨t, rest, rfl, lexeme, flat, spells⟩ := spells
      obtain ⟨as, bs, rfl, first, second⟩ := ih spells
      exact ⟨t :: as, bs, rfl, ⟨t, as, rfl, lexeme, flat, first⟩, second⟩

theorem Spells.flat (spells : layout.Spells ts) : ∀ t ∈ ts, t.IsFlat := by
  induction layout generalizing ts with
  | nil =>
    rw [show ts = [] from spells]
    exact nofun
  | cons piece layout ih =>
    cases piece with
    | space | newline => exact ih spells
    | lexeme x =>
      obtain ⟨t, rest, rfl, -, flat, spells⟩ := spells
      exact List.forall_mem_cons.mpr ⟨flat, ih spells⟩

theorem Spells.flat_append {rest : List Token} (spells : layout.Spells ts)
    (flat : ∀ t ∈ rest, t.IsFlat) : ∀ t ∈ ts ++ rest, t.IsFlat :=
  List.forall_mem_append.mpr ⟨spells.flat, flat⟩

theorem Spells.head {starts : Lexeme → Bool} (spells : layout.Spells ts)
    (leads : layout.Leads starts) :
    0 < ts.length ∧ ∃ x, starts x = true ∧
      ∀ more finish, (Tokens.mk (ts ++ more) finish).current? = some x := by
  obtain ⟨x, more, rfl, read, holds⟩ := leads
  obtain ⟨t, rest, rfl, lexeme, -, -⟩ := spells
  exact ⟨Nat.succ_pos _, x, holds, fun _ _ => congrArg some (lexeme.trans read)⟩

theorem Spells.mark {p : Punctuator} (spells : (Layout.mark p).Spells ts) :
    ∃ t, ts = [t] ∧ t.lexeme = .punctuator p ∧ t.IsFlat := by
  obtain ⟨t, rest, rfl, lexeme, flat, rfl⟩ := spells
  exact ⟨t, rfl, lexeme, flat⟩

theorem Spells.spaced {x : Lexeme} (symbol : x.IsSymbol)
    (spells : (spaced x left right).Spells ts) :
    ∃ as t bs, ts = as ++ t :: bs ∧ left.Spells as ∧ t.lexeme = x ∧ t.IsFlat ∧ right.Spells bs := by
  obtain ⟨_, bs, rfl, outer, second⟩ := spells.append
  obtain ⟨_, _, rfl, inner, t, _, rfl, lexeme, flat, rfl⟩ := outer.append
  obtain ⟨as, _, rfl, first, rfl⟩ := inner.append
  exact ⟨as, t, bs, by simp, first, lexeme.trans symbol.read, flat, second⟩

theorem Spells.commas {layouts : List Layout}
    (spells : (Layout.commas (left :: right :: layouts)).Spells ts) :
    ∃ as t bs, ts = as ++ t :: bs ∧ left.Spells as ∧ t.lexeme = .punctuator .comma ∧ t.IsFlat ∧
      (Layout.commas (right :: layouts)).Spells bs := by
  obtain ⟨_, bs, rfl, outer, more⟩ := spells.append
  obtain ⟨_, _, rfl, inner, rfl⟩ := outer.append
  obtain ⟨as, _, rfl, first, comma⟩ := inner.append
  obtain ⟨t, rfl, lexeme, flat⟩ := comma.mark
  exact ⟨as, t, bs, by simp, first, lexeme, flat, more⟩

theorem Spells.between {p q : Punctuator}
    (spells : (Layout.mark p ++ layout ++ Layout.mark q).Spells ts) :
    ∃ t as u, ts = t :: (as ++ [u]) ∧ t.lexeme = .punctuator p ∧ layout.Spells as ∧
      u.lexeme = .punctuator q ∧ u.IsFlat := by
  obtain ⟨_, _, rfl, outer, closes⟩ := spells.append
  obtain ⟨u, rfl, close, flat⟩ := closes.mark
  obtain ⟨_, as, rfl, opens, inner⟩ := outer.append
  obtain ⟨t, rfl, isOpen, -⟩ := opens.mark
  exact ⟨t, as, u, rfl, isOpen, inner, close, flat⟩

theorem Spells.parens (spells : (parens layout).Spells ts) :
    ∃ t as u, ts = t :: (as ++ [u]) ∧ t.lexeme = .punctuator .parenOpen ∧ layout.Spells as ∧
      u.lexeme = .punctuator .parenClose ∧ u.IsFlat :=
  Spells.between spells

theorem Spells.brackets (spells : (brackets layout).Spells ts) :
    ∃ t as u, ts = t :: (as ++ [u]) ∧ t.lexeme = .punctuator .bracketOpen ∧ layout.Spells as ∧
      u.lexeme = .punctuator .bracketClose ∧ u.IsFlat :=
  Spells.between spells

end Layout

/-! ## Where a level stops -/

namespace Lexeme

/-- How tightly a lexeme holds on to the expression in front of it: a comma makes a sequence of it,
an assignment operator a target, and so on up to a step counter, a point or an opening bracket. -/
def hold (x : Lexeme) : Nat :=
  match BinaryOperator.ofLexeme? x with
  | some op => 3 + op.precedence?.getD 0
  | none =>
    if (AssignmentOperator.ofLexeme? x).isSome then 2
    else if (UpdateOperator.ofLexeme? x).isSome then 16
    else
      match x with
      | .punctuator .comma => 1
      | .punctuator .question => 3
      | .punctuator .dot | .punctuator .bracketOpen | .punctuator .parenOpen
      | .punctuator .optional => 16
      | _ => 0

variable {x : Lexeme}

theorem ne_comma (loose : x.hold ≤ 0) : x ≠ .punctuator .comma := by
  rintro rfl
  exact absurd loose (by decide)

theorem ofLexeme?_assignment (loose : x.hold ≤ 1) : AssignmentOperator.ofLexeme? x = none := by
  cases found : AssignmentOperator.ofLexeme? x with
  | none => rfl
  | some op =>
    unfold hold at loose
    split at loose
    · omega
    · simp [found] at loose

theorem ne_question (loose : x.hold ≤ 2) : x ≠ .punctuator .question := by
  rintro rfl
  exact absurd loose (by decide)

theorem precedence_lt {least : Nat} (loose : x.hold ≤ 2 + least) {op : BinaryOperator}
    (found : BinaryOperator.ofLexeme? x = some op) : op.precedence?.getD 0 < least := by
  simp only [hold, found] at loose
  omega

theorem hold_operator {op : BinaryOperator} (known : BinaryOperator.ofLexeme? op.lexeme = some op) :
    op.lexeme.hold = 3 + op.precedence?.getD 0 := by
  simp only [hold, known]

theorem ofLexeme?_update (loose : x.hold ≤ 15) : UpdateOperator.ofLexeme? x = none := by
  unfold UpdateOperator.ofLexeme?
  split
  · exact absurd loose (by decide)
  · exact absurd loose (by decide)
  · rfl

theorem stops_access (loose : x.hold ≤ 15) :
    ∀ p ∈ [Punctuator.dot, .bracketOpen, .optional], some x ≠ some (.punctuator p) := by
  rintro p member ⟨⟩
  simp only [List.mem_cons, List.not_mem_nil, or_false] at member
  rcases member with rfl | rfl | rfl <;> exact absurd loose (by decide)

theorem stops_call (loose : x.hold ≤ 15) : some x ≠ some (.punctuator .parenOpen) := by
  rintro ⟨⟩
  exact absurd loose (by decide)

end Lexeme

/-- No arrow function starts where there is no arrow. -/
theorem Grammar.arrowAhead_flat {ts : List Token} (flat : ∀ t ∈ ts, t.IsFlat) :
    arrowAhead ts = false := by
  have noArrow : ∀ ts : List Token, (∀ t ∈ ts, t.IsFlat) → startsWithArrow ts = false := by
    rintro (_ | ⟨t, rest⟩) flat
    · rfl
    · simp [startsWithArrow, (flat t List.mem_cons_self).noArrow]
  have parens : ∀ (depth : Nat) (ts : List Token), (∀ t ∈ ts, t.IsFlat) →
      ((afterParens? depth ts).map startsWithArrow).getD false = false := by
    intro depth ts flat
    fun_induction afterParens? depth ts with
    | case1 => rfl
    | case3 token rest => exact noArrow rest fun t member => flat t (List.mem_cons_of_mem _ member)
    | case2 _ _ _ _ ih | case4 _ _ _ _ ih | case5 _ _ _ _ _ ih =>
      exact ih fun t member => flat t (List.mem_cons_of_mem _ member)
  cases ts with
  | nil => rfl
  | cons t rest =>
    have later : ∀ u ∈ rest, u.IsFlat := fun u member => flat u (List.mem_cons_of_mem _ member)
    simp only [arrowAhead]
    split
    · exact noArrow rest later
    · exact parens 0 rest later
    · rfl

theorem Lexeme.not_operator_of_startsOperand {x : Lexeme} (starts : x.startsOperand = true) :
    UnaryOperator.ofLexeme? x = none ∧ UpdateOperator.ofLexeme? x = none := by
  cases x with
  | keyword k => cases k <;> first | exact ⟨rfl, rfl⟩ | cases starts
  | punctuator mark => cases mark <;> first | exact ⟨rfl, rfl⟩ | cases starts
  | _ => exact ⟨rfl, rfl⟩

/-- A name in front of a token that no access, call or step counter starts with. -/
theorem Grammar.unary_name {d : Nat} {s : Tokens} {name : Text}
    (next : s.current? = some (.identifier name))
    (stop : ∀ x, s.advance.current? = some x → x.hold ≤ 15) :
    unary (d + 3) s = .ok (.identifier name, s.advance) := by
  have value : leftHandSide (d + 2) s = .ok (.identifier name, s.advance) := by
    rw [leftHandSide_succ, access_primary (by simp [next]) (primary_atom next .identifier)]
    refine tail_stop (fun p member same => ?_) fun _ same => ?_
    · exact Lexeme.stops_access (stop _ same) p member rfl
    · exact Lexeme.stops_call (stop _ same) rfl
  refine unary_operand (by rw [next]; rfl) (by rw [next]; rfl) value ?_
  cases behind : s.advance.current? with
  | none => rfl
  | some x => exact Lexeme.ofLexeme?_update (stop x behind)

/-! ## Levels of the grammar -/

open Grammar

/-- A function of the grammar reads the tokens of a layout as an expression, in front of every token
that holds on to it no more tightly than `level`. Sixteen calls for each token are enough; `spent`
of them may have been made before. -/
def Reads (parser : Nat → Parser (Expression Text)) (spent level : Nat) (layout : Layout)
    (e : Expression Text) : Prop :=
  ∀ ⦃d : Nat⦄ ⦃ts : List Token⦄ ⦃t : Token⦄ ⦃rest : List Token⦄ ⦃finish : Mark⦄,
    layout.Spells ts → (∀ u ∈ t :: rest, u.IsFlat) → t.lexeme.hold ≤ level →
    16 * ts.length ≤ d + spent →
      parser d ⟨ts ++ t :: rest, finish⟩ = .ok (e, ⟨t :: rest, finish⟩)

/-- How an expression takes part in a chain of operators: how tightly its own operator binds, below
what an operator behind it has to stay, and which logical operators are in the open. -/
structure Chain where
  precedence : Nat
  bound : Nat
  logicals : Logicals

/-- The tokens of a layout are read as the first operand of a chain; `bare` tells that the operand
does not start with a unary operator. -/
def ReadsChain (chain : Chain) (bare : Prop) (layout : Layout) (e : Expression Text) : Prop :=
  ∀ ⦃d least : Nat⦄ ⦃ts : List Token⦄ ⦃t : Token⦄ ⦃rest : List Token⦄ ⦃finish : Mark⦄,
    layout.Spells ts → (∀ u ∈ t :: rest, u.IsFlat) → least ≤ chain.precedence →
    t.lexeme.hold ≤ 2 + chain.bound → 16 * ts.length ≤ d + 3 →
      ∃ d' isUnary, d ≤ d' + ts.length ∧ (bare → isUnary = false) ∧
        binary d least true ⟨ts ++ t :: rest, finish⟩ =
          climb d' least true isUnary e chain.logicals ⟨t :: rest, finish⟩

/-- The tokens of a layout are read as an expression that member accesses and calls can follow. -/
def ReadsAccess (allowCall : Bool) (layout : Layout) (e : Expression Text) : Prop :=
  ∀ ⦃d : Nat⦄ ⦃ts : List Token⦄ ⦃t : Token⦄ ⦃rest : List Token⦄ ⦃finish : Mark⦄,
    layout.Spells ts → (∀ u ∈ t :: rest, u.IsFlat) → 16 * ts.length ≤ d + 6 →
      ∃ d', d ≤ d' + ts.length ∧
        access d allowCall ⟨ts ++ t :: rest, finish⟩ = tail d' allowCall e ⟨t :: rest, finish⟩

abbrev ReadsExpression := Reads (expression · true) 0 0
abbrev ReadsAssignment := Reads (assignment · true) 1 1
abbrev ReadsConditional := Reads (conditional · true) 2 1
abbrev ReadsTarget := Reads (conditional · true) 2 2
abbrev ReadsUnary := Reads unary 4 15

/-- An operand without an operator of its own. -/
def Chain.operand : Chain := ⟨13, 13, .none⟩

section Lift

variable {layout : Layout} {e : Expression Text}

/-! ### From a tight level to a looser one -/

theorem ReadsAccess.unary (reads : ReadsAccess true layout e)
    (leads : layout.Leads Lexeme.startsOperand) : ReadsUnary layout e := by
  intro d ts t rest finish spells flat loose enough
  obtain ⟨pos, x, starts, next⟩ := spells.head leads
  obtain ⟨noUnary, noUpdate⟩ := Lexeme.not_operator_of_startsOperand starts
  obtain ⟨d, rfl⟩ := Nat.exists_eq_add_of_le' (show 2 ≤ d by omega)
  obtain ⟨d', deep, found⟩ := @reads d ts t rest finish spells flat (by omega)
  obtain ⟨d', rfl⟩ := Nat.exists_eq_add_of_le' (show 1 ≤ d' by omega)
  have value : leftHandSide (d + 1) ⟨ts ++ t :: rest, finish⟩ = .ok (e, ⟨t :: rest, finish⟩) := by
    rw [leftHandSide_succ, found]
    exact tail_stop (Lexeme.stops_access loose) fun _ => Lexeme.stops_call loose
  refine unary_operand ?_ ?_ value (Lexeme.ofLexeme?_update loose)
  · rw [next, Option.bind_some, noUnary]
  · rw [next, Option.bind_some, noUpdate]

theorem Reads.chain (reads : ReadsUnary layout e)
    (leads : layout.Leads Lexeme.startsExpression) :
    ReadsChain .operand (layout.Leads Lexeme.startsOperand) layout e := by
  intro d least ts t rest finish spells flat _ loose enough
  obtain ⟨pos, -⟩ := spells.head leads
  obtain ⟨d, rfl⟩ := Nat.exists_eq_add_of_le' (show 1 ≤ d by omega)
  -- Whether the operand counts as unary is told from its first token alone.
  refine ⟨d, _, by omega, fun bare => ?_, binary_operand (reads spells flat loose (by omega))⟩
  obtain ⟨-, x, starts, next⟩ := spells.head bare
  rw [next, Option.bind_some, (Lexeme.not_operator_of_startsOperand starts).1]
  rfl

theorem ReadsChain.binary {chain : Chain} {bare : Prop} (reads : ReadsChain chain bare layout e)
    (leads : layout.Leads Lexeme.startsExpression) {d least : Nat} {ts rest : List Token}
    {t : Token} {finish : Mark} (spells : layout.Spells ts) (flat : ∀ u ∈ t :: rest, u.IsFlat)
    (tight : least ≤ chain.precedence) (loose : t.lexeme.hold ≤ 2 + least)
    (below : least ≤ chain.bound) (enough : 16 * ts.length ≤ d + 3) :
    binary d least true ⟨ts ++ t :: rest, finish⟩ =
      .ok ((e, chain.logicals), ⟨t :: rest, finish⟩) := by
  obtain ⟨pos, -⟩ := spells.head leads
  obtain ⟨d', isUnary, deep, -, found⟩ := @reads d least ts t rest finish spells flat tight
    (by omega) enough
  obtain ⟨d', rfl⟩ := Nat.exists_eq_add_of_le' (show 1 ≤ d' by omega)
  rw [found]
  exact climb_stop fun op same => .inl (Lexeme.precedence_lt loose same)

theorem ReadsChain.target {chain : Chain} {bare : Prop}
    (reads : ReadsChain chain bare layout e) (leads : layout.Leads Lexeme.startsExpression)
    (tight : 1 ≤ chain.precedence) (below : 1 ≤ chain.bound) : ReadsTarget layout e := by
  intro d ts t rest finish spells flat loose enough
  obtain ⟨pos, -⟩ := spells.head leads
  obtain ⟨d, rfl⟩ := Nat.exists_eq_add_of_le' (show 1 ≤ d by omega)
  refine conditional_test (reads.binary leads spells flat tight (by omega) below (by omega)) ?_
  exact fun same => Lexeme.ne_question loose (Option.some.inj same)

/-- The second branch of a conditional expression would take an assignment operator, a chain does
not. -/
theorem Reads.conditional (reads : ReadsTarget layout e) : ReadsConditional layout e := by
  intro d ts t rest finish spells flat loose enough
  exact reads spells flat (by omega) enough

theorem Reads.assignment (reads : ReadsConditional layout e)
    (leads : layout.Leads Lexeme.startsExpression) : ReadsAssignment layout e := by
  intro d ts t rest finish spells flat loose enough
  obtain ⟨pos, -⟩ := spells.head leads
  obtain ⟨d, rfl⟩ := Nat.exists_eq_add_of_le' (show 1 ≤ d by omega)
  exact assignment_plain (arrowAhead_flat (spells.flat_append flat))
    (reads spells flat (by omega) (by omega)) (Lexeme.ofLexeme?_assignment loose)

theorem Reads.expression (reads : ReadsAssignment layout e)
    (leads : layout.Leads Lexeme.startsExpression) : ReadsExpression layout e := by
  intro d ts t rest finish spells flat loose enough
  obtain ⟨pos, -⟩ := spells.head leads
  obtain ⟨d, rfl⟩ := Nat.exists_eq_add_of_le' (show 1 ≤ d by omega)
  refine expression_one (reads spells flat (by omega) (by omega)) ?_
  exact fun same => Lexeme.ne_comma loose (Option.some.inj same)

/-- Parentheses lead from the loosest level to the tightest. -/
theorem Reads.parens (reads : ReadsExpression layout e) (allowCall : Bool) :
    ReadsAccess allowCall (Layout.parens layout) e := by
  intro d ts t rest finish spells flat enough
  obtain ⟨opens, as, closes, rfl, isOpen, inner, isClose, closeFlat⟩ := spells.parens
  simp only [List.length_cons, List.length_append, List.length_nil] at enough ⊢
  obtain ⟨d, rfl⟩ := Nat.exists_eq_add_of_le' (show 2 ≤ d by omega)
  have value : Grammar.expression d true ⟨as ++ closes :: (t :: rest), finish⟩ =
      .ok (e, ⟨closes :: t :: rest, finish⟩) := by
    refine reads inner (List.forall_mem_cons.mpr ⟨closeFlat, flat⟩) ?_ (by omega)
    rw [isClose]
    decide
  rw [List.cons_append, List.append_assoc, List.singleton_append]
  have opened : (Tokens.mk (opens :: (as ++ closes :: t :: rest)) finish).current? =
      some (.punctuator .parenOpen) := congrArg some isOpen
  have head := primary_parens opened value (congrArg some isClose)
  exact ⟨d + 2, by omega, access_primary (by rw [opened]; nofun) head⟩

end Lift

/-! ### Lists -/

structure ReadsItem (layout : Layout) (e : Expression Text) : Prop where
  leads : layout.Leads Lexeme.startsExpression
  reads : ReadsAssignment layout e

theorem ReadsItem.beforeComma {layout : Layout} {e : Expression Text} (item : ReadsItem layout e)
    (d : Nat) (finish : Mark) {ts more : List Token} {comma : Token} (spells : layout.Spells ts)
    (isComma : comma.lexeme = .punctuator .comma) (commaFlat : comma.IsFlat)
    (flat : ∀ u ∈ more, u.IsFlat) (enough : 16 * ts.length ≤ d + 1) :
    assignment d true ⟨ts ++ comma :: more, finish⟩ = .ok (e, ⟨comma :: more, finish⟩) := by
  refine item.reads spells (List.forall_mem_cons.mpr ⟨commaFlat, flat⟩) ?_ enough
  rw [isComma]
  decide

/-- No expression starts with a mark that ends or continues a list. -/
theorem Layout.Spells.other {layout : Layout} {ts : List Token} (spells : layout.Spells ts)
    (leads : layout.Leads Lexeme.startsExpression) (more : List Token) (finish : Mark) :
    ∀ p ∈ [Punctuator.parenClose, .bracketClose, .comma, .ellipsis, .dot],
      (Tokens.mk (ts ++ more) finish).current? ≠ some (.punctuator p) := by
  obtain ⟨-, x, starts, next⟩ := spells.head leads
  rw [next]
  rintro p member ⟨⟩
  simp only [List.mem_cons, List.not_mem_nil, or_false] at member
  rcases member with rfl | rfl | rfl | rfl | rfl <;> cases starts

section Lists

variable {layout : Expression Text → Layout} {es : List (Expression Text)} {d : Nat}
  {ts rest : List Token} {t : Token} {finish : Mark}

theorem arguments_items (each : ∀ e ∈ es, ReadsItem (layout e) e)
    (spells : (Layout.commas (es.map layout)).Spells ts)
    (close : t.lexeme = .punctuator .parenClose)
    (flat : ∀ u ∈ t :: rest, u.IsFlat) (enough : 16 * ts.length + 8 ≤ d) :
    arguments d ⟨ts ++ t :: rest, finish⟩ = .ok (es, ⟨rest, finish⟩) := by
  induction es generalizing d ts with
  | nil =>
    obtain ⟨d, rfl⟩ := Nat.exists_eq_add_of_le' (show 1 ≤ d by omega)
    rw [show ts = [] from spells]
    exact arguments_nil (congrArg some close)
  | cons e es ih =>
    obtain ⟨d, rfl⟩ := Nat.exists_eq_add_of_le' (show 1 ≤ d by omega)
    obtain ⟨reads, later⟩ := List.forall_mem_cons.mp each
    -- The last argument stands in front of the closing mark, every other one in front of a comma.
    cases es with
    | nil =>
      obtain ⟨pos, -⟩ := spells.head reads.leads
      have other := spells.other reads.leads (t :: rest) finish
      have item := @reads.reads d ts t rest finish spells flat (by rw [close]; decide) (by omega)
      refine arguments_item (other _ (by simp)) (other _ (by simp)) item
        (.close (congrArg some close)) ?_
      exact ih later rfl (by simp; omega)
    | cons e' es =>
      obtain ⟨as, comma, bs, rfl, first, isComma, commaFlat, more⟩ := spells.commas
      obtain ⟨pos, -⟩ := first.head reads.leads
      rw [List.length_append, List.length_cons] at enough
      rw [List.append_assoc, List.cons_append]
      have other := first.other reads.leads (comma :: (bs ++ t :: rest)) finish
      have item := reads.beforeComma d finish first isComma commaFlat
        (more.flat_append flat) (by omega)
      refine arguments_item (other _ (by simp)) (other _ (by simp)) item
        (.comma (congrArg some isComma)) ?_
      exact ih later more (by omega)

theorem moreExpressions_items {e : Expression Text} {comma : Token}
    (each : ∀ k ∈ e :: es, ReadsItem (layout k) k) (isComma : comma.lexeme = .punctuator .comma)
    (spells : (Layout.commas ((e :: es).map layout)).Spells ts) (loose : t.lexeme.hold ≤ 0)
    (flat : ∀ u ∈ t :: rest, u.IsFlat) (enough : 16 * ts.length + 2 ≤ d) :
    moreExpressions d true ⟨comma :: (ts ++ t :: rest), finish⟩ =
      .ok (e :: es, ⟨t :: rest, finish⟩) := by
  induction es generalizing d ts e comma with
  | nil =>
    obtain ⟨leads, reads⟩ := each e List.mem_cons_self
    obtain ⟨d, rfl⟩ := Nat.exists_eq_add_of_le' (show 2 ≤ d by omega)
    have item := @reads (d + 1) ts t rest finish spells flat (by omega) (by omega)
    refine moreExpressions_comma (congrArg some isComma) item (moreExpressions_stop ?_)
    exact fun same => Lexeme.ne_comma loose (Option.some.inj same)
  | cons e' es ih =>
    obtain ⟨reads, later⟩ := List.forall_mem_cons.mp each
    obtain ⟨as, next, bs, rfl, first, isNext, nextFlat, more⟩ := spells.commas
    obtain ⟨pos, -⟩ := first.head reads.leads
    rw [List.length_append, List.length_cons] at enough
    obtain ⟨d, rfl⟩ := Nat.exists_eq_add_of_le' (show 1 ≤ d by omega)
    rw [List.append_assoc, List.cons_append]
    have item := reads.beforeComma d finish first isNext nextFlat
      (more.flat_append flat) (by omega)
    exact moreExpressions_comma (congrArg some isComma) item (ih later isNext more (by omega))

end Lists

def elementRow (elems : List (Option (Expression Text))) : Layout :=
  Layout.commas (elems.map Expression.elementPieces) ++
    if endsWithHole elems then Layout.mark .comma else []

section Elements

variable {elems : List (Option (Expression Text))} {ts : List Token}

theorem elementRow_more {element element' : Option (Expression Text)}
    (spells : (elementRow (element :: element' :: elems)).Spells ts) :
    ∃ as t bs, ts = as ++ t :: bs ∧ (Expression.elementPieces element).Spells as ∧
      t.lexeme = .punctuator .comma ∧ t.IsFlat ∧ (elementRow (element' :: elems)).Spells bs := by
  have hole : endsWithHole (element :: element' :: elems) = endsWithHole (element' :: elems) := by
    simp only [endsWithHole, List.getLast?_cons_cons]
  have row : elementRow (element :: element' :: elems) =
      Layout.commas [Expression.elementPieces element, elementRow (element' :: elems)] := by
    simp [elementRow, Layout.commas, hole]
  rw [row] at spells
  exact spells.commas

/-- A comma stands behind each hole. -/
theorem elementRow_hole (spells : (elementRow (none :: elems)).Spells ts) :
    ∃ t bs, ts = t :: bs ∧ t.lexeme = .punctuator .comma ∧ (elementRow elems).Spells bs := by
  cases elems with
  | nil =>
    obtain ⟨t, rfl, comma, -⟩ := Layout.Spells.mark spells
    exact ⟨t, [], rfl, comma, rfl⟩
  | cons element elems =>
    obtain ⟨_, t, bs, rfl, rfl, comma, -, more⟩ := elementRow_more spells
    exact ⟨t, bs, rfl, comma, more⟩

theorem elements_items {d : Nat} {rest : List Token} {t : Token} {finish : Mark}
    (each : ∀ e, some e ∈ elems → ReadsItem (e.within Level.assignment) e)
    (spells : (elementRow elems).Spells ts) (close : t.lexeme = .punctuator .bracketClose)
    (flat : ∀ u ∈ t :: rest, u.IsFlat) (enough : 16 * ts.length + 8 ≤ d) :
    elements d ⟨ts ++ t :: rest, finish⟩ = .ok (elems, ⟨rest, finish⟩) := by
  induction elems generalizing d ts with
  | nil =>
    obtain ⟨d, rfl⟩ := Nat.exists_eq_add_of_le' (show 1 ≤ d by omega)
    rw [show ts = [] from spells]
    exact elements_nil (congrArg some close)
  | cons element elems ih =>
    obtain ⟨d, rfl⟩ := Nat.exists_eq_add_of_le' (show 1 ≤ d by omega)
    have later : ∀ e, some e ∈ elems → ReadsItem (e.within Level.assignment) e :=
      fun e member => each e (List.mem_cons_of_mem _ member)
    cases element with
    | none =>
      obtain ⟨comma, bs, rfl, isComma, more⟩ := elementRow_hole spells
      rw [List.length_cons] at enough
      exact elements_hole (congrArg some isComma) (ih later more (by omega))
    | some e =>
      have reads := each e List.mem_cons_self
      cases elems with
      | nil =>
        have spells : (e.within Level.assignment).Spells ts := by
          simpa [elementRow, Layout.commas, endsWithHole, Expression.elementPieces] using spells
        obtain ⟨pos, -⟩ := spells.head reads.leads
        have other := spells.other reads.leads (t :: rest) finish
        have item := @reads.reads d ts t rest finish spells flat (by rw [close]; decide) (by omega)
        refine elements_item (other _ (by simp)) (other _ (by simp)) (other _ (by simp)) item
          (.close (congrArg some close)) ?_
        exact ih later rfl (by simp; omega)
      | cons element' elems =>
        obtain ⟨as, comma, bs, rfl, first, isComma, commaFlat, more⟩ := elementRow_more spells
        change (e.within Level.assignment).Spells as at first
        obtain ⟨pos, -⟩ := first.head reads.leads
        rw [List.length_append, List.length_cons] at enough
        rw [List.append_assoc, List.cons_append]
        have other := first.other reads.leads (comma :: (bs ++ t :: rest)) finish
        have item := reads.beforeComma d finish first isComma commaFlat
          (more.flat_append flat) (by omega)
        refine elements_item (other _ (by simp)) (other _ (by simp)) (other _ (by simp)) item
          (.comma (congrArg some isComma)) ?_
        exact ih later more (by omega)

end Elements

end LibraryDescriptor
