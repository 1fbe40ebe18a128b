import LibraryDescriptor.Proofs.Parser.Ensures
import LibraryDescriptor.Proofs.Printer.OpenTree
import LibraryDescriptor.Proofs.Printer.Renamed

/-!
# First clauses of `for` heads

An `in` in the first clause of a `for` head, outside all brackets, would be read as the word of a
loop over keys. The printer puts such an operation in parentheses, but a `for` loop in a function in
the clause turns that off for what stands behind it.

* `first_clause_open_in` — where the text of a first clause has an `in` outside its brackets.
* `strayLoop_open_in` — a loop whose clause has one.
-/

namespace LibraryDescriptor

section Clause

variable {head : LoopHead Text} {test update : Option (Expression Text)} {body : Statement Text}

/-- The first clause stands between a parenthesis and a semicolon. -/
theorem Statement.pieces_for (level : Nat) (noIn : Bool) :
    ∃ rest, (Statement.for (some head) test update body).pieces level noIn =
      Layout.word .for ++ Layout.space ++ Layout.mark .parenOpen ++
        head.pieces Level.sequence level true ++ Layout.mark .semicolon ++ rest := by
  rw [Statement.pieces, LoopHead.clausePieces, Layout.parens]
  simp only [List.append_assoc]
  exact ⟨_, rfl⟩

/-- The tokens of a first clause. -/
theorem LoopHead.Grammatical.scan_clause (grammatical : head.Grammatical) (level : Nat) :
    ∃ tokens, scan (head.pieces Level.sequence level true).text = .ok tokens ∧
      hasOpenIn 0 false tokens.lexemes = head.opensIn Level.sequence true := by
  have shows := grammatical.shown Level.sequence level true
  refine ⟨_, (shows.separated [] nofun).scan, ?_⟩
  rw [Tokens.lexemes, Layout.lexemes_tokens]
  exact shows.row.hasOpenIn_eq

/-- A grammatical loop is laid out with its first clause between a parenthesis and a semicolon. The
scanner finds the tokens of the clause in its text, and they have an `in` outside all brackets
exactly where `opensIn` tells so: where an operation with `in` is laid out bare behind a loop with a
first clause of its own. So a clause without such a loop has none. -/
theorem first_clause_open_in
    (grammatical : (Statement.for (some head) test update body).Grammatical) (level : Nat)
    (noIn : Bool) :
    ∃ (clause rest : Layout) (after state : Bool) (tokens : Tokens),
      (Statement.for (some head) test update body).layout level noIn =
        .ok (Layout.word .for ++ Layout.space ++ Layout.mark .parenOpen ++ clause ++
          Layout.mark .semicolon ++ rest, state) ∧
      head.layout Level.sequence level true = .ok (clause, after) ∧
      scan clause.text = .ok tokens ∧
      hasOpenIn 0 false tokens.lexemes = head.opensIn Level.sequence true ∧
      (head.tally 0 1 = 0 → hasOpenIn 0 false tokens.lexemes = false) := by
  have first : head.Grammatical := by
    cases grammatical with
    | «for» each => exact each head rfl
  obtain ⟨rest, laid⟩ := Statement.pieces_for level noIn
  obtain ⟨tokens, scanned, found⟩ := first.scan_clause level
  have printed := grammatical.prints level noIn
  rw [laid] at printed
  refine ⟨_, rest, _, _, tokens, printed, first.prints Level.sequence level true, scanned, found,
    fun noLoop => ?_⟩
  rw [found, LoopHead.opensIn_of_tally noLoop]

end Clause

/-- A function with a loop that has a first clause. -/
def loopingFunction : Expression Text :=
  .function none [] [.for (some (.expression (.identifier "i"))) none none .empty]

def membership : Expression Text :=
  .binary .isIn (.literal (.string "a") none) (.identifier "b")

theorem loopingFunction_grammatical : loopingFunction.Grammatical := by
  have loop : Statement.Grammatical
      (.for (some (.expression (.identifier "i"))) none none .empty) := by
    refine .for ?_ (by simp) (by simp) .empty
    rintro _ ⟨⟩
    exact .expression (.identifier ⟨by decide, by decide⟩)
  exact .function (by simp) (by simp) (List.forall_mem_singleton.mpr loop)

theorem membership_grammatical : membership.Grammatical :=
  .binary rfl rfl .string (.identifier ⟨by decide, by decide⟩)

theorem Declarator.Grammatical.initialized {name : Text} {e : Expression Text}
    (isName : name.IsName)
    (init : e.Grammatical) : (Declarator.mk name (some e)).Grammatical := by
  refine .mk isName ?_
  rintro _ ⟨⟩
  exact init

theorem Statement.for_variables_grammatical {d : List (Declarator Text)} (filled : d ≠ [])
    (each : ∀ x ∈ d, x.Grammatical) :
    (Statement.for (some (.variables .var d)) none none .empty).Grammatical := by
  refine .for ?_ (by simp) (by simp) .empty
  rintro _ ⟨⟩
  exact .variables filled rfl each

/-- A first clause with an `in` in front of such a function, one in brackets behind it, and one that
is a name. -/
def shelteredClause : List (Declarator Text) :=
  [.mk "x" (some membership), .mk "f" (some loopingFunction),
    .mk "y" (some (.member (.array [some membership]) (.identifier "in") false))]

def shelteredText : Text := Text.joinWith "\n"
  ["var x = ('a' in b), f = function () \x7b", "    for (i;;);", "\x7d, y = ['a' in b].in"]

theorem shelteredClause_grammatical : ∀ d ∈ shelteredClause, d.Grammatical := by
  have array : (Expression.array [some membership]).Grammatical := by
    refine .array ?_
    simpa using membership_grammatical
  simp only [shelteredClause, List.forall_mem_cons]
  exact ⟨.initialized ⟨by decide, by decide⟩ membership_grammatical,
    .initialized ⟨by decide, by decide⟩ loopingFunction_grammatical,
    .initialized ⟨by decide, by decide⟩ (.dotted array (by decide)), nofun⟩

theorem shelteredClause_open_in :
    (Statement.for (some (.variables .var shelteredClause)) none none .empty).Grammatical ∧
      ((LoopHead.variables .var shelteredClause).layout Level.sequence 0 true).map (·.1.text) =
        .ok shelteredText ∧
      ∃ tokens, scan shelteredText = .ok tokens ∧ hasOpenIn 0 false tokens.lexemes = false := by
  have grammatical := Statement.for_variables_grammatical (by decide) shelteredClause_grammatical
  have same : ((LoopHead.variables .var shelteredClause).layout Level.sequence 0 true).map
      (·.1.text) = .ok shelteredText := by decide +kernel
  obtain ⟨clause, -, after, -, tokens, -, laid, scanned, found, -⟩ :=
    first_clause_open_in grammatical 0 false
  have written : clause.text = shelteredText := by
    rw [laid] at same
    exact Except.ok.inj same
  rw [written] at scanned
  exact ⟨grammatical, same, tokens, scanned, found⟩

/-- A first clause with an `in` behind such a function. -/
def strayClause : List (Declarator Text) :=
  [.mk "f" (some loopingFunction), .mk "x" (some membership)]

def strayLoop : Statement Text := .for (some (.variables .var strayClause)) none none .empty

def strayClauseText : Text := Text.joinWith "\n"
  ["var f = function () \x7b", "    for (i;;);", "\x7d, x = 'a' in b"]

def strayLoopText : Text := .join ["for (", strayClauseText, ";;);"]

theorem strayLoop_grammatical : strayLoop.Grammatical := by
  refine Statement.for_variables_grammatical (d := strayClause) (by decide) ?_
  simp only [strayClause, List.forall_mem_cons]
  exact ⟨.initialized ⟨by decide, by decide⟩ loopingFunction_grammatical,
    .initialized ⟨by decide, by decide⟩ membership_grammatical, nofun⟩

/-- The `in` behind the function is written without parentheses, and the text of the loop is read as
a loop over keys, which this is not. -/
theorem strayLoop_open_in :
    strayLoop.Grammatical ∧
      ((LoopHead.variables .var strayClause).layout Level.sequence 0 true).map (·.1.text) =
        .ok strayClauseText ∧
      (scan strayClauseText).map (hasOpenIn 0 false ·.lexemes) = .ok true ∧
      strayLoop.print = .ok strayLoopText ∧
      (parse strayLoopText).map (fun _ => ()) = .error (.syntactic ⟨3, 12⟩ .invalidLoopTarget) := by
  refine ⟨strayLoop_grammatical, ?_, ?_, ?_, ?_⟩
  all_goals decide +kernel

end LibraryDescriptor
