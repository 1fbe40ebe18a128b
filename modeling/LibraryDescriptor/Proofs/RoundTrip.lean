import LibraryDescriptor.Proofs.Parser.OperatorReading
import LibraryDescriptor.Proofs.Printer.Renamed

/-!
# Printed operator trees are read back

* `Statement.print_expression` — the text of a statement that is an operator tree.
* `module_expression` — its tokens are read as a module of that one statement.
* `parse_print_operatorTree` — printing an operator tree and parsing the text gives the tree.
-/

namespace LibraryDescriptor

open Grammar

variable {e : Expression Text}

theorem Statement.pieces_expression (tree : e.OperatorTree) :
    (Statement.expression e).pieces 0 false = e.pieces 0 false ++ Layout.mark .semicolon := by
  rw [Statement.pieces, tree.startsAmbiguously]
  rfl

theorem Statement.print_expression (tree : e.OperatorTree) :
    (Statement.expression e).print = .ok (e.pieces 0 false ++ Layout.mark .semicolon).text := by
  have prints := Statement.Prints.expression tree.startsAmbiguously tree.grammatical.prints 0 false
  rw [Statement.pieces_expression tree] at prints
  change ((Statement.expression e).layout 0 false >>= _) = _
  rw [prints]
  rfl

theorem Program.print_expression (tree : e.OperatorTree) :
    Program.print ⟨[.expression e]⟩ =
      .ok (e.pieces 0 false ++ Layout.mark .semicolon ++ [Piece.newline 0]).text := by
  have items : ∀ s ∈ [Statement.expression e], s.IsItem := by
    simpa using Statement.IsItem.statement (.expression tree.grammatical)
  have statements : Statement.piecesList [.expression e] 0 false =
      [(Statement.expression e).pieces 0 false] := rfl
  rw [Program.print_eq items, Program.pieces, statements, Statement.pieces_expression tree]
  simp

theorem startsStatement_of_startsExpression {x : Lexeme} (starts : x.startsExpression = true) :
    startsStatement x = true := by
  cases x with
  | keyword k => cases k <;> first | rfl | cases starts
  | punctuator mark => cases mark <;> first | rfl | cases starts
  | _ => rfl

/-- A statement that is an operator tree is read from its tokens. -/
theorem module_expression (tree : e.OperatorTree) {ts : List Token} {semicolon : Token}
    {finish : Mark} (spells : (e.pieces 0 false).Spells ts) (flat : semicolon.IsFlat)
    (isSemicolon : semicolon.lexeme = .punctuator .semicolon) :
    Grammar.module ⟨ts ++ [semicolon], finish⟩ = .ok ⟨[.expression e]⟩ := by
  obtain ⟨pos, x, starts, next⟩ := spells.head tree.starts.expression
  -- Three calls lead to the expression; the semicolon's own sixteen pay for them.
  obtain ⟨d, bound⟩ := Nat.exists_eq_add_of_le' (show 3 ≤ 16 * (ts.length + 2) by omega)
  have value : expression d true ⟨ts ++ [semicolon], finish⟩ = .ok (e, ⟨[semicolon], finish⟩) := by
    refine tree.reads.expression spells (by simpa using flat) ?_ (by omega)
    rw [isSemicolon]
    decide
  have statement : moduleItem (d + 2) ⟨ts ++ [semicolon], finish⟩ =
      .ok (.expression e, ⟨[], finish⟩) := by
    rw [moduleItem_expression (next _ _) (startsStatement_of_startsExpression starts)]
    exact expressionStatement_semicolon value (congrArg some isSemicolon)
  have items := moduleItems_one (by rw [next]; rfl) statement rfl
  have depth : depthBound ⟨ts ++ [semicolon], finish⟩ = d + 3 := by
    rw [← bound, depthBound, List.length_append, List.length_singleton]
  rw [Grammar.module, depth]
  change (moduleItems (d + 3) ⟨ts ++ [semicolon], finish⟩ >>= _) = _
  rw [items]
  rfl

theorem parse_layout (tree : e.OperatorTree) {behind : Layout}
    (blank : behind = [] ∨ behind = [Piece.newline 0]) :
    parse (e.pieces 0 false ++ Layout.mark .semicolon ++ behind).text = .ok ⟨[.expression e]⟩ := by
  have separated : (e.pieces 0 false ++ Layout.mark .semicolon ++ behind).Separated [] := by
    rw [Layout.separated_append, Layout.separated_append]
    refine ⟨⟨tree.separates _ (.inl (Text.startsIn_scalar (by decide))),
      Layout.separated_mark (by decide)⟩, ?_⟩
    rcases blank with rfl | rfl <;> trivial
  have nothing : ∀ cursor, behind.tokens cursor = [] := by
    rcases blank with rfl | rfl <;> exact fun _ => rfl
  obtain ⟨spells, unbroken⟩ := @Layout.spells_tokens _ .start tree.isFlat rfl
  rw [parse, separated.scan]
  change Grammar.module _ = _
  rw [Layout.tokens_append, nothing, List.append_nil, Layout.tokens_append]
  exact module_expression tree spells ⟨unbroken, nofun⟩ rfl

/-- Printing a statement that is an operator tree and parsing the text gives that one statement,
alone and as a module with a line break at its end. -/
theorem parse_print_operatorTree (tree : e.OperatorTree) :
    ∃ text, (Statement.expression e).print = .ok text ∧ parse text = .ok ⟨[.expression e]⟩ ∧
      Program.print ⟨[.expression e]⟩ = .ok (text ++ [.scalar '\n']) ∧
      parse (text ++ [.scalar '\n']) = .ok ⟨[.expression e]⟩ := by
  have line : ∀ layout : Layout,
      (layout ++ [Piece.newline 0]).text = layout.text ++ [.scalar '\n'] :=
    fun layout => Layout.text_append ..
  refine ⟨_, Statement.print_expression tree, ?_, ?_, ?_⟩
  · simpa using parse_layout tree (.inl rfl)
  · rw [← line]
    exact Program.print_expression tree
  · rw [← line]
    exact parse_layout tree (.inr rfl)

/-- A tree that needs parentheses for most of its parts: a callee that is a call, `??` beside `||`,
a unary operand of a power, a number with a member, and holes on both sides of an array. -/
def knottyTree : Expression Text :=
  .sequence
    [.assignment .nullish
      (.member (.new (.call (.identifier "f") []) [.identifier "x"]) (.identifier "in") false)
      (.conditional
        (.logical .or (.logical .nullish (.identifier "a") (.identifier "b"))
          (.logical .and (.identifier "a") (.identifier "b")))
        (.assignment .assign (.identifier "a") (.sequence [.identifier "a", .identifier "b"]))
        .this),
     .binary .power (.unary .minus (.unary .minus (.literal (.number (.integer 1)) (some "1"))))
      (.binary .power (.update .increment false (.identifier "a"))
        (.unary .typeOf (.update .decrement true (.identifier "b")))),
     .array
      [none,
       some (.member (.literal (.number (.integer 1)) (some "1"))
         (.literal (.string "k") none) true),
       some (.binary .subtract (.identifier "a")
        (.binary .subtract (.identifier "b") (.literal .null none))), none]]

theorem knottyTree_operatorTree : knottyTree.OperatorTree := by
  have name {n : Text} (word : n.isWord = true) (free : Keyword.ofText? n = none) :
      (Expression.identifier n).OperatorTree := .identifier ⟨word, free⟩
  have a := @name "a" (by decide) (by decide)
  have b := @name "b" (by decide) (by decide)
  have f := @name "f" (by decide) (by decide)
  have x := @name "x" (by decide) (by decide)
  have one : (Expression.literal (.number (.integer 1)) (some "1")).OperatorTree :=
    .number ⟨by decide, _, _, rfl, by decide, by decide⟩ (by decide)
  unfold knottyTree
  refine .sequence (by decide) ?_
  simp only [List.forall_mem_cons, List.not_mem_nil, false_implies, implies_true, and_true]
  refine ⟨.assignment rfl rfl (.dotted (.new (.call f nofun) (by simpa using x)) (by decide)) ?_,
    ?_, ?_⟩
  · exact .conditional (.logical rfl rfl (.logical rfl rfl a b) (.logical rfl rfl a b))
      (.assignment rfl rfl a (.sequence (by decide) (by simpa using And.intro a b))) .this
  · exact .binary rfl rfl (.unary rfl (.unary rfl one))
      (.binary rfl rfl (.update rfl rfl a) (.unary rfl (.update rfl rfl b)))
  · refine .array ?_
    simp only [List.mem_cons, Option.some.injEq, reduceCtorEq, false_or, List.not_mem_nil, or_false]
    rintro e (rfl | rfl)
    · exact .computed one .string
    · exact .binary rfl rfl a (.binary rfl rfl b .null)

def knottyText : Text := Text.joinWith " "
  ["new (f())(x).in ??= (a ?? b) || a && b ? a = (a, b) : this,",
   "(- -1) ** a++ ** typeof --b, [, (1)['k'], a - (b - null), ,];"]

theorem knottyTree_parse_print :
    knottyTree.OperatorTree ∧ (Statement.expression knottyTree).print = .ok knottyText ∧
      parse knottyText = .ok ⟨[.expression knottyTree]⟩ := by
  have tree := knottyTree_operatorTree
  have same : (Statement.expression knottyTree).print = .ok knottyText := by decide +kernel
  obtain ⟨text, printed, parsed, -⟩ := parse_print_operatorTree tree
  rw [Except.ok.inj (printed.symm.trans same)] at parsed
  exact ⟨tree, same, parsed⟩

end LibraryDescriptor
