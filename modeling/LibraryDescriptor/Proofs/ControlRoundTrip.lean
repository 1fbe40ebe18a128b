import LibraryDescriptor.Proofs.Parser.ControlReading
import LibraryDescriptor.Proofs.Printer.ControlLayout

/-!
# Printed control statements are read back

* `Layout.Lays.parse` — a layout of the row of a control statement is read as the statement with
  each `else` at the nearest `if`.
* `parse_print_control` — printing a control statement and parsing the text gives the statement,
  with blocks around consequents, if and only if each `else` stays with its `if`.
* `strayElse_moves` — an `else` behind a loop with an open `if` in it goes into the loop.
-/

namespace LibraryDescriptor

variable {s : Statement Text}

theorem Statement.IsControl.print (tree : s.IsControl) :
    ∃ layout : Layout, layout.Lays s.row ∧ s.print = .ok layout.text ∧
      Program.print ⟨[s]⟩ = .ok (layout.text ++ [.scalar '\n']) := by
  obtain ⟨layout, printed, lays⟩ := tree.writes 0
  refine ⟨layout, lays, ?_, ?_⟩
  · change (s.layout 0 false >>= _) = _
    rw [printed]
    rfl
  · have lines : Statement.layoutList [s] 0 false = .ok ([layout], false) := by
      rw [Statement.layoutList, Printer.bind_ok printed]
      rfl
    change (Statement.layoutList [s] 0 false >>= _) = _
    rw [lines]
    exact congrArg Except.ok (List.append_nil _)

theorem Layout.Lays.parse {layout behind : Layout} (tree : s.IsControl) (lays : layout.Lays s.row)
    (blank : behind = [] ∨ behind = [Piece.newline 0]) :
    parse (layout ++ behind).text = .ok ⟨[s.reread]⟩ := by
  obtain ⟨control, grammatical⟩ := tree.reread
  have whole : (layout ++ behind).Lays s.row := by
    rcases blank with rfl | rfl
    · simpa using lays
    · simpa using lays.append (Layout.Lays.nil.newline 0)
  rw [LibraryDescriptor.parse, (whole.separated []).scan]
  refine Grammar.module_control control grammatical ?_
  rw [Statement.row_reread]
  exact (Layout.lexemes_tokens _ _).trans whole.lexemes

theorem Statement.IsControl.parse_text {text : Text} (tree : s.IsControl)
    (printed : s.print = .ok text) : parse text = .ok ⟨[s.reread]⟩ := by
  obtain ⟨layout, lays, same, -⟩ := tree.print
  obtain rfl := Except.ok.inj (same.symm.trans printed)
  simpa using lays.parse tree (.inl rfl)

/-- Printing a control statement and parsing the text gives the statement that has the same tokens
and each `else` at the nearest `if`, alone and as a module with a line break at its end. It is the
printed one, but for blocks around consequents in front of an `else`, if and only if each such
consequent is closed or an `if` statement itself. -/
theorem parse_print_control (tree : s.IsControl) :
    ∃ text, s.print = .ok text ∧ parse text = .ok ⟨[s.reread]⟩ ∧
      Program.print ⟨[s]⟩ = .ok (text ++ [.scalar '\n']) ∧
      parse (text ++ [.scalar '\n']) = .ok ⟨[s.reread]⟩ ∧
      (s.GainsBlocks s.reread ↔ s.keepsElse = true) := by
  obtain ⟨layout, lays, printed, module⟩ := tree.print
  refine ⟨layout.text, printed, tree.parse_text printed, module, ?_, s.gainsBlocks_reread_iff⟩
  have line : (layout ++ [Piece.newline 0]).text = layout.text ++ [.scalar '\n'] :=
    Layout.text_append ..
  rw [← line]
  exact lays.parse tree (.inr rfl)

/-! ## Two statements -/

/-- All kinds of control statements around a consequent in front of an `else`. -/
def nestedControl (consequent : Statement Text) : Statement Text :=
  .if (.identifier "a") consequent
    (some (.for (some (.expression (.identifier "x"))) none (some (.identifier "y"))
      (.forIn (.expression (.identifier "x")) (.identifier "y")
        (.forOf (.expression (.identifier "x")) (.identifier "y")
          (.doWhile
            (.block [.empty, .while (.identifier "a")
              (.if (.identifier "b") .empty (some (.expression (.identifier "c"))))])
            (.identifier "b"))))))

def openIf : Statement Text := .if (.identifier "b") (.expression (.identifier "c")) none

def nestedControlText : Text := Text.joinWith "\n"
  ["if (a) \x7b", "    if (b)", "        c;", "\x7d else", "    for (x;; y)",
   "        for (x in y)", "            for (x of y)", "                do \x7b",
   "                    ;", "                    while (a)", "                        if (b);",
   "                        else", "                            c;",
   "                \x7d while (b);"]

theorem Expression.named_of_word {name : Text} (word : name.isWord = true)
    (free : Keyword.ofText? name = none) : (Expression.identifier name).Named := .mk ⟨word, free⟩

theorem nestedControl_isControl : (nestedControl openIf).IsControl := by
  have a := @Expression.named_of_word "a" (by decide) (by decide)
  have b := @Expression.named_of_word "b" (by decide) (by decide)
  have c := @Expression.named_of_word "c" (by decide) (by decide)
  have x := @Expression.named_of_word "x" (by decide) (by decide)
  have y := @Expression.named_of_word "y" (by decide) (by decide)
  refine .ifElse a (.ifThen b (.expression c)) (.for ?_ (by simp) (by simpa using y) (.forIn (.mk x)
    y (.forOf (.mk x) y (.doWhile (.block ?_) b))))
  · simpa using LoopHead.Named.mk x
  · simpa using And.intro Statement.IsControl.empty
      (Statement.IsControl.while a (.ifElse b .empty (.expression c)))

theorem nestedControl_parse_print :
    (nestedControl openIf).IsControl ∧ (nestedControl openIf).keepsElse = true ∧
      (nestedControl openIf).print = .ok nestedControlText ∧
      parse nestedControlText = .ok ⟨[nestedControl (.block [openIf])]⟩ ∧
      (nestedControl openIf).GainsBlocks (nestedControl (.block [openIf])) := by
  have tree := nestedControl_isControl
  have same : (nestedControl openIf).print = .ok nestedControlText := by decide +kernel
  obtain ⟨text, printed, parsed, -, -, gains⟩ := parse_print_control tree
  rw [Except.ok.inj (printed.symm.trans same)] at parsed
  exact ⟨tree, rfl, same, parsed, gains.mpr rfl⟩

/-- An `if` statement with an `else`, whose consequent is a loop around an `if` statement
without. -/
def strayElse : Statement Text :=
  .if (.identifier "a") (.while (.identifier "d") openIf) (some (.expression (.identifier "e")))

def strayElseText : Text := Text.joinWith "\n"
  ["if (a)", "    while (d)", "        if (b)", "            c;", "else", "    e;"]

theorem strayElse_isControl : strayElse.IsControl := by
  refine .ifElse ?_ (.while ?_ (.ifThen ?_ (.expression ?_))) (.expression ?_)
  all_goals exact Expression.named_of_word (by decide) (by decide)

/-- The `else` behind the loop is read as one in the loop. -/
theorem strayElse_moves :
    strayElse.IsControl ∧ strayElse.print = .ok strayElseText ∧
      parse strayElseText = .ok ⟨[.if (.identifier "a") (.while (.identifier "d")
        (.if (.identifier "b") (.expression (.identifier "c"))
          (some (.expression (.identifier "e"))))) none]⟩ ∧
      ∀ t, parse strayElseText = .ok ⟨[t]⟩ → ¬ strayElse.GainsBlocks t := by
  have printed : strayElse.print = .ok strayElseText := by decide +kernel
  have parsed := strayElse_isControl.parse_text printed
  refine ⟨strayElse_isControl, printed, parsed, ?_⟩
  rintro t found ⟨_, _, same, -⟩
  cases same
  cases parsed.symm.trans found

end LibraryDescriptor
