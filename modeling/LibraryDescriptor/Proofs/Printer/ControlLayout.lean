import LibraryDescriptor.Proofs.Printer.Pieces
import LibraryDescriptor.Proofs.Syntax.ControlTree
import LibraryDescriptor.Proofs.Token.Layout

/-!
# Layouts of control statements

The printer writes the row of a control statement, with spaces and line breaks that keep its words
apart.

* `Layout.Lays` — a layout has a row, and no word in it runs into what stands behind it.
* `Layout.Lays.separated` — such a layout is scanned as its row.
* `Statement.IsControl.writes` — the layout of a control statement.
-/

namespace LibraryDescriptor

namespace Layout

def startsApart : Layout → Bool
  | .space :: _ | .newline _ :: _ | .lexeme (.punctuator _) :: _ => true
  | _ => false

/-- A layout has a row, and what stands behind it is not drawn into its last lexeme. -/
structure Lays (layout : Layout) (row : List Lexeme) : Prop where
  lexemes : layout.lexemes = row
  separated : ∀ t, layout.Separated t

theorem startsApart_append {left : Layout} (apart : left.startsApart = true) (right : Layout) :
    (left ++ right).startsApart = true := by
  match left with
  | .space :: _ | .newline _ :: _ | .lexeme (.punctuator _) :: _ => rfl

theorem headHas_of_startsApart {layout : Layout} (apart : layout.startsApart = true) (t : Text) :
    (layout.text ++ t).headHas isIdentifierPart = false := by
  match layout with
  | .space :: _ => rfl
  | .newline _ :: _ => rfl
  | .lexeme (.punctuator p) :: _ => cases p <;> rfl

namespace Lays

variable {layout : Layout} {row : List Lexeme}

theorem nil : Lays [] [] := ⟨rfl, fun _ => trivial⟩

theorem space (lays : layout.Lays row) : (Layout.space ++ layout).Lays row :=
  ⟨lays.lexemes, lays.separated⟩

theorem newline (lays : layout.Lays row) (level : Nat) : Lays (.newline level :: layout) row :=
  ⟨lays.lexemes, lays.separated⟩

theorem mark {p : Punctuator} (single : p ∈ Punctuator.singles) (lays : layout.Lays row) :
    (Layout.mark p ++ layout).Lays (.punctuator p :: row) :=
  ⟨congrArg _ lays.lexemes, fun t =>
    ⟨trivial, Punctuator.ends_of_mem_singles single _, lays.separated t⟩⟩

theorem word (k : Keyword) (lays : layout.Lays row) (apart : layout.startsApart = true) :
    (Layout.word k ++ layout).Lays (.keyword k :: row) :=
  ⟨congrArg _ lays.lexemes, fun t =>
    ⟨trivial, headHas_of_startsApart apart t, lays.separated t⟩⟩

theorem name {name : Text} (isName : name.IsName) (lays : layout.Lays row)
    (apart : layout.startsApart = true) :
    (Layout.name name ++ layout).Lays (.identifier name :: row) := by
  refine ⟨?_, fun t => ⟨isName.word, headHas_of_startsApart apart t, lays.separated t⟩⟩
  rw [Layout.name, List.singleton_append, Layout.lexemes, Lexeme.read_identifier isName,
    lays.lexemes]

theorem append {more : Layout} {later : List Lexeme} (first : layout.Lays row)
    (second : more.Lays later) : (layout ++ more).Lays (row ++ later) :=
  ⟨by rw [lexemes_append, first.lexemes, second.lexemes],
    fun t => separated_append.mpr ⟨first.separated _, second.separated t⟩⟩

theorem gap (lays : layout.Lays row) (sameLine : Bool) (level : Nat) :
    ((if sameLine then Layout.space else [.newline level]) ++ layout).Lays row := by
  cases sameLine
  · exact lays.newline level
  · exact lays.space

/-- Lines between braces. -/
theorem braces {lines : List Layout} {rows : List (List Lexeme)}
    (each : List.Forall₂ Lays lines rows) (level : Nat) :
    (Layout.braces level lines).Lays (rowBraces rows.flatten) := by
  have closed : Lays (.newline level :: Layout.mark .braceClose) [.punctuator .braceClose] :=
    (mark (p := .braceClose) (by decide) nil).newline level
  have inside : Lays (lines.flatMap (Piece.newline (level + 1) :: ·) ++
      (.newline level :: Layout.mark .braceClose)) (rows.flatten ++ [.punctuator .braceClose]) := by
    induction each with
    | nil => exact closed
    | cons first _ ih => simpa using (first.newline (level + 1)).append ih
  unfold Layout.braces
  split
  · next empty =>
    obtain rfl := List.isEmpty_iff.mp empty
    cases each
    exact mark (p := .braceOpen) (by decide) (mark (p := .braceClose) (by decide) nil)
  · rw [List.append_assoc]
    exact mark (p := .braceOpen) (by decide) inside

end Lays

end Layout

/-! ## Statements -/

/-- The printer lays a statement out as a row, outside every `for` head. -/
def Statement.Writes (s : Statement Text) (row : List Lexeme) : Prop :=
  ∀ level, ∃ layout, s.layout level false = .ok (layout, false) ∧ layout.Lays row

namespace Statement.Writes

variable {s : Statement Text} {row : List Lexeme}

/-- The body of a compound statement stands apart from its head. -/
theorem asBody (writes : s.Writes row) (level : Nat) :
    ∃ layout, s.layout (bodyLevel s level) false = .ok (layout, false) ∧
      (bodyLead s level ++ layout).Lays row ∧
      (bodyLead s level ++ layout).startsApart = true := by
  obtain ⟨layout, printed, lays⟩ := writes (bodyLevel s level)
  refine ⟨layout, printed, ?_⟩
  cases s with
  | block => exact ⟨lays.space, rfl⟩
  | empty =>
    obtain rfl : Layout.mark .semicolon = layout := (Prod.mk.inj (Except.ok.inj printed)).1
    exact ⟨lays, rfl⟩
  | _ => exact ⟨lays.newline _, rfl⟩

/-- The consequent in front of an `else`, in braces if it would take the `else`. -/
theorem asConsequent (writes : s.Writes row) (level : Nat) :
    ∃ layout,
      s.layout (if takesElse s then level + 1 else bodyLevel s level) false =
        .ok (layout, false) ∧
      (if takesElse s then Layout.space ++ Layout.braces level [layout]
        else bodyLead s level ++ layout).Lays (if takesElse s then rowBraces row else row) := by
  cases takesElse s with
  | true =>
    obtain ⟨layout, printed, lays⟩ := writes (level + 1)
    have inside := (Layout.Lays.braces (.cons lays .nil) level).space
    exact ⟨layout, printed, by simpa using inside⟩
  | false =>
    obtain ⟨layout, printed, lays, -⟩ := writes.asBody level
    exact ⟨layout, printed, lays⟩

/-- The statement behind an `else`. -/
theorem asAlternate (writes : s.Writes row) (level : Nat) :
    ∃ layout,
      s.layout (if isIf s then level else bodyLevel s level) false = .ok (layout, false) ∧
      ((if isIf s then Layout.space else bodyLead s level) ++ layout).Lays row ∧
      ((if isIf s then Layout.space else bodyLead s level) ++ layout).startsApart = true := by
  cases isIf s with
  | true =>
    obtain ⟨layout, printed, lays⟩ := writes level
    exact ⟨layout, printed, lays.space, rfl⟩
  | false => exact writes.asBody level

end Statement.Writes

/-- A name between parentheses. -/
theorem Layout.Lays.parens {layout : Layout} {row : List Lexeme} {name : Text}
    (isName : name.IsName) (lays : layout.Lays row) :
    (Layout.parens (Layout.name name) ++ layout).Lays
      (rowParens [.identifier name] ++ row) := by
  simp only [Layout.parens, List.append_assoc]
  exact mark (p := .parenOpen) (by decide)
    (.name isName (mark (p := .parenClose) (by decide) lays) rfl)

/-- A name behind a space, or nothing, in front of a punctuator. -/
theorem Expression.layoutOption_named {e : Option (Expression Text)} (named : ∀ v ∈ e, v.Named)
    (level : Nat) :
    ∃ clause, Expression.layoutOption e level false = .ok (clause, false) ∧
      ∀ {layout : Layout} {row : List Lexeme}, layout.Lays row → layout.startsApart = true →
        (clause ++ layout).Lays (e.elim [] Expression.row ++ row) := by
  cases e with
  | none => exact ⟨[], rfl, fun lays _ => lays⟩
  | some v =>
    obtain ⟨isName⟩ := named v rfl
    exact ⟨_, rfl, fun lays apart => (Layout.Lays.name isName lays apart).space⟩

theorem LoopHead.layout_named {head : LoopHead Text} (named : head.Named) (required level : Nat)
    (loose : required ≤ Level.primary) (noIn : Bool) :
    ∃ name : Text, name.IsName ∧ head.row = [.identifier name] ∧
      head.layout required level noIn = .ok (Layout.name name, noIn) := by
  obtain ⟨⟨isName⟩⟩ := named
  refine ⟨_, isName, rfl, ?_⟩
  change Except.ok (wrap required (_, Level.primary), noIn) = _
  rw [wrap, if_neg (Nat.not_lt.mpr loose)]

/-! ### One rule for each kind of control statement -/

namespace Statement.Writes

variable {e : Expression Text} {s other : Statement Text}

theorem expression (named : e.Named) :
    (Statement.expression e).Writes (Statement.expression e).row := by
  obtain ⟨isName⟩ := named
  exact fun _ => ⟨_, rfl, .name isName (.mark (by decide) .nil) rfl⟩

theorem empty : Statement.empty.Writes Statement.empty.row :=
  fun _ => ⟨_, rfl, .mark (by decide) .nil⟩

theorem lines {body : List (Statement Text)} (each : ∀ s ∈ body, s.Writes s.row) (level : Nat) :
    ∃ layouts, Statement.layoutList body level false = .ok (layouts, false) ∧
      List.Forall₂ Layout.Lays layouts (body.map Statement.row) := by
  induction body with
  | nil => exact ⟨[], rfl, .nil⟩
  | cons s ss ih =>
    obtain ⟨first, later⟩ := List.forall_mem_cons.mp each
    obtain ⟨layout, printed, lays⟩ := first level
    obtain ⟨layouts, rest, more⟩ := ih later
    exact ⟨layout :: layouts, (Printer.bind_ok printed).trans (Printer.bind_ok rest),
      .cons lays more⟩

theorem block {body : List (Statement Text)} (each : ∀ s ∈ body, s.Writes s.row) :
    (Statement.block body).Writes (Statement.block body).row := by
  intro level
  obtain ⟨layouts, printed, lays⟩ := lines each (level + 1)
  refine ⟨_, Printer.bind_ok printed, ?_⟩
  rw [Statement.row, Statement.rowList_eq]
  exact .braces lays level

theorem ifThen (test : e.Named) (consequent : s.Writes s.row) :
    (Statement.if e s none).Writes (Statement.if e s none).row := by
  intro level
  obtain ⟨isName⟩ := test
  obtain ⟨layout, printed, lays, -⟩ := consequent.asBody level
  refine ⟨_, (Printer.bind_ok rfl).trans (Printer.bind_ok printed), ?_⟩
  simp only [List.append_assoc]
  exact .word _ (.space (.parens isName lays)) rfl

theorem ifElse (test : e.Named) (consequent : s.Writes s.row) (alternate : other.Writes other.row) :
    (Statement.if e s (some other)).Writes (Statement.if e s (some other)).row := by
  intro level
  obtain ⟨isName⟩ := test
  obtain ⟨first, printed, lays⟩ := consequent.asConsequent level
  obtain ⟨second, later, rest, apart⟩ := alternate.asAlternate level
  refine ⟨_, (Printer.bind_ok rfl).trans ((Printer.bind_ok printed).trans
    (Printer.bind_ok later)), ?_⟩
  simp only [List.append_assoc]
  exact .word _ (.space (.parens isName (lays.append ((rest.word .else apart).gap _ level)))) rfl

theorem whileTest (test : e.Named) (body : s.Writes s.row) :
    (Statement.while e s).Writes (Statement.while e s).row := by
  intro level
  obtain ⟨isName⟩ := test
  obtain ⟨layout, printed, lays, -⟩ := body.asBody level
  refine ⟨_, (Printer.bind_ok rfl).trans (Printer.bind_ok printed), ?_⟩
  simp only [List.append_assoc]
  exact .word _ (.space (.parens isName lays)) rfl

theorem doWhile (body : s.Writes s.row) (test : e.Named) :
    (Statement.doWhile s e).Writes (Statement.doWhile s e).row := by
  intro level
  obtain ⟨isName⟩ := test
  obtain ⟨layout, printed, lays, apart⟩ := body.asBody level
  refine ⟨_, (Printer.bind_ok printed).trans (Printer.bind_ok rfl), ?_⟩
  have test := (Layout.Lays.parens isName (.mark (p := .semicolon) (by decide) .nil)).space.word
    .while rfl
  have whole := (lays.append (test.gap (isBlock s) level)).word .do
    (Layout.startsApart_append apart _)
  simpa only [Statement.row, Expression.row, List.append_assoc, List.append_nil] using whole

section Loops

variable {head : LoopHead Text} {second third : Option (Expression Text)}

theorem forIn (left : head.Named) (right : e.Named) (body : s.Writes s.row) :
    (Statement.forIn head e s).Writes (Statement.forIn head e s).row := by
  intro level
  obtain ⟨isRight⟩ := right
  obtain ⟨name, isName, named, printedHead⟩ := LoopHead.layout_named left Level.postfixed level
    (by decide) false
  obtain ⟨layout, printed, lays, -⟩ := body.asBody level
  refine ⟨_, (Printer.bind_ok printedHead).trans ((Printer.bind_ok rfl).trans
    (Printer.bind_ok printed)), ?_⟩
  simp only [Statement.row, named, Layout.parens, List.append_assoc]
  exact .word _ (.space (.mark (by decide) (.name isName (.space (.word _ (.space
    (.name isRight (.mark (by decide) lays) rfl)) rfl)) rfl))) rfl

theorem forOf (left : head.Named) (right : e.Named) (body : s.Writes s.row) :
    (Statement.forOf head e s).Writes (Statement.forOf head e s).row := by
  intro level
  obtain ⟨isRight⟩ := right
  obtain ⟨name, isName, named, printedHead⟩ := LoopHead.layout_named left Level.postfixed level
    (by decide) false
  obtain ⟨layout, printed, lays, -⟩ := body.asBody level
  refine ⟨_, (Printer.bind_ok printedHead).trans ((Printer.bind_ok rfl).trans
    (Printer.bind_ok printed)), ?_⟩
  simp only [Statement.row, named, Layout.parens, List.append_assoc]
  exact .word _ (.space (.mark (by decide) (.name isName (.space (.name ⟨by decide, by decide⟩
    (.space (.name isRight (.mark (by decide) lays) rfl)) rfl)) rfl))) rfl

theorem counting {init : Option (LoopHead Text)} (head : ∀ h ∈ init, h.Named)
    (test : ∀ e ∈ second, e.Named) (update : ∀ e ∈ third, e.Named) (body : s.Writes s.row) :
    (Statement.for init second third s).Writes (Statement.for init second third s).row := by
  intro level
  obtain ⟨testLayout, testPrinted, testLays⟩ := Expression.layoutOption_named test level
  obtain ⟨updateLayout, updatePrinted, updateLays⟩ := Expression.layoutOption_named update level
  obtain ⟨layout, printed, lays, -⟩ := body.asBody level
  have clauses := testLays (.mark (p := .semicolon) (by decide)
    (updateLays (.mark (p := .parenClose) (by decide) lays) rfl)) rfl
  cases init with
  | none =>
    refine ⟨_, Printer.bind_pure.trans ((Printer.bind_ok testPrinted).trans
      ((Printer.bind_ok updatePrinted).trans (Printer.bind_ok printed))), ?_⟩
    have whole := ((clauses.mark (p := .semicolon) (by decide)).mark (p := .parenOpen)
      (by decide)).space.word .for rfl
    simpa only [Statement.row, rowBetween, Layout.parens, List.append_assoc, List.nil_append,
      List.cons_append, Option.elim] using whole
  | some first =>
    obtain ⟨name, isName, named, printedHead⟩ := LoopHead.layout_named (head first rfl)
      Level.sequence level (by decide) true
    refine ⟨_, Printer.bind_set.trans ((Printer.bind_ok printedHead).trans
      (Printer.bind_set.trans (Printer.bind_pure.trans ((Printer.bind_ok testPrinted).trans
        ((Printer.bind_ok updatePrinted).trans (Printer.bind_ok printed)))))), ?_⟩
    have whole := ((((clauses.mark (p := .semicolon) (by decide)).name isName rfl).mark
      (p := .parenOpen) (by decide)).space.word .for rfl)
    simpa only [Statement.row, named, rowBetween, Layout.parens, List.append_assoc,
      List.nil_append, List.cons_append, Option.elim] using whole

end Loops

end Statement.Writes

/-- The printer writes the row of a control statement. -/
theorem Statement.IsControl.writes {s : Statement Text} (tree : s.IsControl) : s.Writes s.row := by
  induction tree with
  | expression named => exact .expression named
  | block _ each => exact .block each
  | ifThen test _ consequent => exact .ifThen test consequent
  | ifElse test _ _ consequent alternate => exact .ifElse test consequent alternate
  | «for» head test update _ body => exact .counting head test update body
  | forIn left right _ body => exact .forIn left right body
  | forOf left right _ body => exact .forOf left right body
  | «while» test _ body => exact .whileTest test body
  | doWhile _ test body => exact .doWhile body test
  | empty => exact .empty

end LibraryDescriptor
