import LibraryDescriptor.Parser.Module
import LibraryDescriptor.Proofs.Token.Lexeme

/-!
# What a parser ensures

Partial correctness of parsers on valid tokens: what is known of the result and of the tokens left
if a parser succeeds. Places are known by the lexemes ahead of them.

* `Parser.Ensures` with `Ensures.bind` and `Ensures.pure`.
* One rule for each primitive in front of a continuation. A rule for a choice has one premise for
  each answer.
-/

namespace LibraryDescriptor

namespace Tokens

def lexemes (s : Tokens) : List Lexeme := s.ahead.map (·.lexeme)

/-- Whether all tokens ahead are ones that the scanner makes. -/
def Valid (s : Tokens) : Prop := ∀ token ∈ s.ahead, token.lexeme.Valid

theorem current?_eq (s : Tokens) : s.current? = s.lexemes.head? := by
  cases s with
  | mk ahead finish => cases ahead <;> rfl

/-- A token that is next can be taken. -/
theorem lexemes_advance {s : Tokens} {x : Lexeme} (found : s.lexemes.head? = some x) :
    s.lexemes = x :: s.advance.lexemes := by
  cases s with
  | mk ahead finish =>
    cases ahead with
    | nil => cases found
    | cons token rest => cases found; rfl

section Cons

variable {s : Tokens} {x : Lexeme} {rest : List Lexeme}

theorem current?_of_lexemes (spelled : s.lexemes = x :: rest) : s.current? = some x := by
  rw [current?_eq, spelled, List.head?_cons]

theorem advance_of_lexemes (spelled : s.lexemes = x :: rest) : s.advance.lexemes = rest := by
  have next := lexemes_advance (s := s) (x := x) (by rw [spelled, List.head?_cons])
  exact (List.cons.inj (next.symm.trans spelled)).2

end Cons

theorem Valid.advance {s : Tokens} (valid : s.Valid) : s.advance.Valid :=
  fun token member => valid token (List.mem_of_mem_tail member)

theorem Valid.head {s : Tokens} {x : Lexeme} (valid : s.Valid) (found : s.lexemes.head? = some x) :
    x.Valid := by
  cases s with
  | mk ahead finish =>
    cases ahead with
    | nil => cases found
    | cons token rest => cases found; exact valid token List.mem_cons_self

end Tokens

namespace Parser

variable {α β : Type}

/-- Whether a parser, wherever it succeeds on valid tokens, has a result and leaves a place that
satisfy a condition. -/
def Ensures (p : Parser α) (s : Tokens) (post : α → Tokens → Prop) : Prop :=
  s.Valid → ∀ a s', p s = .ok (a, s') → s'.Valid ∧ post a s'

namespace Ensures

variable {p : Parser α} {f : α → Parser β} {s : Tokens} {P : α → Tokens → Prop}
  {Q : β → Tokens → Prop}

theorem bind (first : Ensures p s P) (next : ∀ a s', P a s' → Ensures (f a) s' Q) :
    Ensures (p >>= f) s Q := by
  intro valid b s'' done
  change (p s >>= fun r => f r.1 r.2) = .ok (b, s'') at done
  cases result : p s with
  | error fault => rw [result] at done; cases done
  | ok r =>
    rw [result] at done
    obtain ⟨valid', holds⟩ := first valid r.1 r.2 result
    exact next r.1 r.2 holds valid' b s'' done

theorem pure {b : β} (holds : Q b s) : Ensures (pure b) s Q := by
  intro valid _ _ done
  cases done
  exact ⟨valid, holds⟩

theorem mono {P' : α → Tokens → Prop} (first : Ensures p s P) (weaker : ∀ a s', P a s' → P' a s') :
    Ensures p s P' := fun valid a s' done =>
  let ⟨valid', holds⟩ := first valid a s' done
  ⟨valid', weaker a s' holds⟩

theorem ite {c : Prop} [Decidable c] {p q : Parser α} (yes : c → Ensures p s P)
    (no : ¬c → Ensures q s P) : Ensures (if c then p else q) s P := by
  split
  · next holds => exact yes holds
  · next fails => exact no fails

/-! ## Failures -/

theorem throw {fault : SourceError} : Ensures (throw fault : Parser β) s Q := nofun

theorem fail {fault : SyntaxFault} : Ensures (Parser.fail fault : Parser β) s Q := nofun

theorem failAt {place : Mark} {fault : SyntaxFault} :
    Ensures (Parser.failAt place fault : Parser β) s Q := nofun

theorem failFound {fault : Found → SyntaxFault} :
    Ensures (Parser.failFound fault : Parser β) s Q := nofun

theorem fail_bind {fault : SyntaxFault} : Ensures (Parser.fail fault >>= f) s Q := nofun

theorem failAt_bind {place : Mark} {fault : SyntaxFault} :
    Ensures (Parser.failAt place fault >>= f) s Q := nofun

theorem failFound_bind {fault : Found → SyntaxFault} :
    Ensures (Parser.failFound fault >>= f) s Q := nofun

/-! ## Looking ahead -/

theorem get {f : Tokens → Parser β} (next : Ensures (f s) s Q) :
    Ensures (MonadState.get >>= f) s Q := next

theorem mark {f : Mark → Parser β} (next : Ensures (f s.mark) s Q) :
    Ensures (Parser.mark >>= f) s Q := next

theorem current {f : Found → Parser β} (next : Ensures (f s.lexemes.head?) s Q) :
    Ensures (current? >>= f) s Q := by
  rw [← s.current?_eq] at next
  exact next

theorem isNext {x : Lexeme} {f : Bool → Parser β}
    (found : s.lexemes.head? = some x → Ensures (f true) s Q)
    (other : s.lexemes.head? ≠ some x → Ensures (f false) s Q) :
    Ensures (Parser.isNext x >>= f) s Q := by
  change Ensures (f (s.current? == some x)) s Q
  rw [s.current?_eq]
  by_cases next : s.lexemes.head? = some x
  · rw [beq_iff_eq.mpr next]
    exact found next
  · rw [beq_eq_false_iff_ne.mpr next]
    exact other next

theorem atEnd {f : Bool → Parser β} (ended : s.lexemes = [] → Ensures (f true) s Q)
    (other : Ensures (f false) s Q) : Ensures (Parser.atEnd >>= f) s Q := by
  cases s with
  | mk ahead finish =>
    cases ahead with
    | nil => exact ended rfl
    | cons token rest => exact other

theorem refusePattern {f : Unit → Parser β} (next : Ensures (f ()) s Q) :
    Ensures (Parser.refusePattern >>= f) s Q := by
  refine bind (P := fun _ s' => s' = s) ?_ fun _ _ same => same ▸ next
  refine isNext (fun _ => isNext (fun _ => fail) fun _ => fail) fun _ => isNext (fun _ => fail)
    fun _ => pure rfl

/-! ## Taking tokens -/

theorem advance {x : Lexeme} {f : Unit → Parser β} (found : s.lexemes.head? = some x)
    (next : ∀ s', s.lexemes = x :: s'.lexemes → x.Valid → Ensures (f ()) s' Q) :
    Ensures (Parser.advance >>= f) s Q := fun valid =>
  next s.advance (Tokens.lexemes_advance found) (valid.head found) valid.advance

/-- Take a token if it is next. -/
theorem take {x : Lexeme} {f : Bool → Parser β}
    (taken : ∀ s', s.lexemes = x :: s'.lexemes → Ensures (f true) s' Q)
    (other : s.lexemes.head? ≠ some x → Ensures (f false) s Q) :
    Ensures ((do if ← Parser.isNext x then Parser.advance; return true else return false) >>= f)
      s Q := by
  refine bind (P := fun taken s' => if taken then s.lexemes = x :: s'.lexemes
    else s' = s ∧ s.lexemes.head? ≠ some x) ?_ fun
    | true, s', front => taken s' front
    | false, s', ⟨same, absent⟩ => same ▸ other absent
  exact isNext (fun found => advance found fun s' front _ => pure front)
    fun absent => pure ⟨rfl, absent⟩

theorem accept {mark : Punctuator} {f : Bool → Parser β}
    (taken : ∀ s', s.lexemes = .punctuator mark :: s'.lexemes → Ensures (f true) s' Q)
    (other : s.lexemes.head? ≠ some (.punctuator mark) → Ensures (f false) s Q) :
    Ensures (Parser.accept mark >>= f) s Q := take taken other

theorem acceptWord {word : Keyword} {f : Bool → Parser β}
    (taken : ∀ s', s.lexemes = .keyword word :: s'.lexemes → Ensures (f true) s' Q)
    (other : s.lexemes.head? ≠ some (.keyword word) → Ensures (f false) s Q) :
    Ensures (Parser.acceptWord word >>= f) s Q := take taken other

theorem acceptContextual {word : Text} {f : Bool → Parser β}
    (taken : ∀ s', s.lexemes = .identifier word :: s'.lexemes → Ensures (f true) s' Q)
    (other : s.lexemes.head? ≠ some (.identifier word) → Ensures (f false) s Q) :
    Ensures (Parser.acceptContextual word >>= f) s Q := take taken other

section Expect

variable {f : Unit → Parser β}

theorem expect {mark : Punctuator}
    (next : ∀ s', s.lexemes = .punctuator mark :: s'.lexemes → Ensures (f ()) s' Q) :
    Ensures (Parser.expect mark >>= f) s Q :=
  bind (accept (fun _ front => pure front) fun _ => failFound) fun _ => next

theorem expectWord {word : Keyword}
    (next : ∀ s', s.lexemes = .keyword word :: s'.lexemes → Ensures (f ()) s' Q) :
    Ensures (Parser.expectWord word >>= f) s Q :=
  bind (acceptWord (fun _ front => pure front) fun _ => failFound) fun _ => next

theorem expectContextual {word : Text}
    (next : ∀ s', s.lexemes = .identifier word :: s'.lexemes → Ensures (f ()) s' Q) :
    Ensures (Parser.expectContextual word >>= f) s Q :=
  bind (acceptContextual (fun _ front => pure front) fun _ => failFound) fun _ => next

/-- The end of a statement takes a semicolon or nothing. -/
theorem endStatement
    (next : ∀ s', s.lexemes = .punctuator .semicolon :: s'.lexemes ∨ s' = s →
      Ensures (f ()) s' Q) :
    Ensures (Parser.endStatement >>= f) s Q := by
  refine bind (accept (fun s' front => pure (.inl front)) fun _ => ?_) fun _ => next
  have implied (c : Prop) [Decidable c] (fault : Found → SyntaxFault) :
      Ensures (if c then Pure.pure () else Parser.failFound fault) s fun _ s' =>
        s.lexemes = .punctuator .semicolon :: s'.lexemes ∨ s' = s :=
    ite (fun _ => pure (.inr rfl)) fun _ => failFound
  exact isNext (fun _ => atEnd (fun _ => mark (implied _ _)) (mark (implied _ _)))
    fun _ => atEnd (fun _ => mark (implied _ _)) (mark (implied _ _))

end Expect

theorem expectIdentifier {f : Text → Parser β}
    (next : ∀ name s', s.lexemes = .identifier name :: s'.lexemes → name.IsName →
      Ensures (f name) s' Q) :
    Ensures (Parser.expectIdentifier >>= f) s Q := by
  refine bind (P := fun name s' => s.lexemes = .identifier name :: s'.lexemes ∧ name.IsName)
    (current ?_) fun name s' ⟨front, isName⟩ => next name s' front isName
  split
  · next name found => exact advance found fun s' front isName => pure ⟨front, isName⟩
  · exact failFound

/-- A name in a place where reserved words are names too. -/
theorem expectPropertyName {f : Text → Parser β}
    (next : ∀ name x s', s.lexemes = x :: s'.lexemes →
      (x = .identifier name ∧ name.IsName ∨ ∃ word, x = .keyword word ∧ name = word.spelling) →
      Ensures (f name) s' Q) :
    Ensures (Parser.expectPropertyName >>= f) s Q := by
  refine bind (P := fun name s' => ∃ x, s.lexemes = x :: s'.lexemes ∧
    (x = .identifier name ∧ name.IsName ∨ ∃ word, x = .keyword word ∧ name = word.spelling))
    (current ?_) fun name s' ⟨x, front, spelled⟩ => next name x s' front spelled
  split
  · next name found =>
    exact advance found fun s' front isName => pure ⟨_, front, .inl ⟨rfl, isName⟩⟩
  · next word found => exact advance found fun s' front _ => pure ⟨_, front, .inr ⟨word, rfl, rfl⟩⟩
  · exact failFound

theorem expectString {f : Text → Parser β}
    (next : ∀ value s', s.lexemes = .string value :: s'.lexemes → Ensures (f value) s' Q) :
    Ensures (Parser.expectString >>= f) s Q := by
  refine bind (P := fun value s' => s.lexemes = .string value :: s'.lexemes) (current ?_) next
  split
  · next value found => exact advance found fun s' front _ => pure front
  · exact failFound

theorem numberOf {raw : Text} {f : Number → Parser β}
    (next : ∀ value, Numeral.value? raw = some value → Ensures (f value) s Q) :
    Ensures (Parser.numberOf raw >>= f) s Q := by
  refine bind (P := fun value s' => Numeral.value? raw = some value ∧ s' = s) ?_
    fun value s' ⟨found, same⟩ => same ▸ next value found
  unfold Parser.numberOf
  split
  · next value found => exact pure ⟨found, rfl⟩
  · exact throw

theorem checkInitializers {kind : VariableKind} {items : List (Declarator Text)}
    {f : Unit → Parser β}
    (next : Grammar.uninitialized? kind items = none → Ensures (f ()) s Q) :
    Ensures (Grammar.checkInitializers kind items >>= f) s Q := by
  refine bind (P := fun _ s' => Grammar.uninitialized? kind items = none ∧ s' = s) ?_
    fun _ s' ⟨complete, same⟩ => same ▸ next complete
  unfold Grammar.checkInitializers
  split
  · exact fail
  · next complete => exact pure ⟨complete, rfl⟩

end Ensures

end Parser

end LibraryDescriptor
