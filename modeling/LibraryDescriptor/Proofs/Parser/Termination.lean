import LibraryDescriptor.Proofs.Parser.Bodies
import LibraryDescriptor.Proofs.Parser.Ensures

/-!
# The parser terminates

Each token that is taken pays for 16 calls, and each function has a rank: how many calls a call of
it may cost before the first token is taken. Going through the body of every function once shows
that no call costs more than that. So a module is parsed with at most 16 calls for each token and 15
more, no function calls itself again at the same place, and the bound on the depth of calls is never
reached.

* `Parser.Reads` — how many tokens a parser without calls takes at least.
* `Grammar.Body.Fits` — a body keeps within the rank of its function; `Rule.fits` — all do.
* `Grammar.Rule.halts` — every call has a run, by induction on 16 times the tokens ahead and the
  rank.
* `Grammar.module_terminates` — the run of a whole module.
* `Grammar.refuses_of_module` — a module fails at a fault or at a numeral that denotes no number.
-/

namespace LibraryDescriptor

namespace Tokens

def Refuses (s : Tokens) : SourceError → Prop
  | .syntactic _ _ => True
  | .unreadableNumber raw => .number raw ∈ s.lexemes ∧ Numeral.value? raw = none
  | _ => False

theorem Refuses.before {s origin : Tokens} {e : SourceError} (reach : s.ahead <:+ origin.ahead)
    (refused : s.Refuses e) : origin.Refuses e := by
  cases e with
  | syntactic => trivial
  | unreadableNumber raw => exact ⟨List.map_subset _ reach.subset refused.1, refused.2⟩
  | lexical | escapeOutOfRange | exhausted => exact refused.elim

end Tokens

/-! ## Parsers without calls -/

namespace Parser

variable {α β : Type}

/-- An outcome that is a syntactic fault, or a place behind at least so many tokens. -/
inductive Passes (s : Tokens) (count : α → Nat) : Except SourceError (α × Tokens) → Prop
  | ok {a s'} (reach : s'.ahead <:+ s.ahead)
    (taken : s'.ahead.length + count a ≤ s.ahead.length) : Passes s count (.ok (a, s'))
  | fault {position fault} : Passes s count (.error (.syntactic position fault))

/-- A parser that takes at least so many tokens if it succeeds, and fails at faults only. -/
class Reads (p : Parser α) (count : outParam (α → Nat)) : Prop where
  passes (s : Tokens) : Passes s count (p s)

namespace Reads

variable {p : Parser α} {q : α → Parser β} {m : α → Nat}

theorem look {f : Tokens → α} (looks : ∀ s, p s = .ok (f s, s)) : Reads p fun _ => 0 :=
  ⟨fun s => by rw [looks s]; exact .ok List.suffix_rfl (Nat.le_refl _)⟩

theorem bind {k : α → β → Nat} {n : β → Nat} [first : Reads p m] (next : ∀ a, Reads (q a) (k a))
    (sum : ∀ a b, n b ≤ m a + k a b) : Reads (p >>= q) n := by
  refine ⟨fun s => ?_⟩
  have read := first.passes s
  change Passes s n (p s >>= fun r => q r.1 r.2)
  generalize p s = outcome at read ⊢
  cases read with
  | fault => exact .fault
  | @ok a s' reach taken =>
    have read := (next a).passes s'
    change Passes s n (q a s')
    generalize q a s' = outcome at read ⊢
    cases read with
    | fault => exact .fault
    | @ok b _ reach' taken' =>
      have enough := sum a b
      exact .ok (reach'.trans reach) (by omega)

theorem andThen [Reads p m] (next : ∀ a, Reads (q a) fun _ => 0) : Reads (p >>= q) fun _ => 0 :=
  .bind next fun _ _ => Nat.zero_le _

theorem ite {c : Prop} [Decidable c] {p q : Parser α} (yes : Reads p m) (no : Reads q m) :
    Reads (if c then p else q) m := by
  split
  · exact yes
  · exact no

theorem pure {a : α} : Reads (Pure.pure a : Parser α) fun _ => 0 := look fun _ => rfl

theorem failFound {fault : Found → SyntaxFault} : Reads (Parser.failFound fault : Parser α) m :=
  ⟨fun _ => .fault⟩

theorem accept (x : Lexeme) :
    Reads (do if ← isNext x then advance; return true else return false) Bool.toNat where
  passes s := by
    obtain ⟨ahead, finish⟩ := s
    cases ahead with
    | nil => exact .ok List.suffix_rfl (Nat.le_refl _)
    | cons token rest =>
      change Passes _ _ ((if (some token.lexeme == some x) = true then _ else _ : Parser Bool) _)
      split
      · exact .ok (List.suffix_cons token rest) (Nat.le_refl _)
      · exact .ok List.suffix_rfl (Nat.le_refl _)

theorem expect {p : Parser Bool} [Reads p Bool.toNat] {fault : Found → SyntaxFault} :
    Reads (do unless ← p do Parser.failFound fault) fun _ => 1 := by
  refine .bind (k := fun b _ => 1 - b.toNat) (fun b => ?_) (fun b _ => by omega)
  cases b with
  | true => exact .pure
  | false => exact .failFound

end Reads

instance : Reads (get : Parser Tokens) fun _ => 0 := .look fun _ => rfl
instance : Reads mark fun _ => 0 := .look fun _ => rfl
instance : Reads current? fun _ => 0 := .look fun _ => rfl
instance (x : Lexeme) : Reads (isNext x) fun _ => 0 := .look fun _ => rfl
instance (m : Punctuator) : Reads (isMark m) fun _ => 0 := .look fun _ => rfl
instance (k : Keyword) : Reads (isWord k) fun _ => 0 := .look fun _ => rfl
instance : Reads atEnd fun _ => 0 := .look fun _ => rfl
instance (m : Punctuator) : Reads (accept m) Bool.toNat := .accept _
instance (k : Keyword) : Reads (acceptWord k) Bool.toNat := .accept _
instance (word : Text) : Reads (acceptContextual word) Bool.toNat := .accept _
instance (m : Punctuator) : Reads (expect m) fun _ => 1 := .expect
instance (k : Keyword) : Reads (expectWord k) fun _ => 1 := .expect
instance (word : Text) : Reads (expectContextual word) fun _ => 1 := .expect

instance : Reads expectIdentifier fun _ => 1 where
  passes s := by
    obtain ⟨_ | ⟨⟨lexeme, mark⟩, rest⟩, finish⟩ := s
    · exact .fault
    · cases lexeme with
      | identifier => exact .ok (List.suffix_cons _ rest) (Nat.le_refl _)
      | _ => exact .fault

instance : Reads expectPropertyName fun _ => 1 where
  passes s := by
    obtain ⟨_ | ⟨⟨lexeme, mark⟩, rest⟩, finish⟩ := s
    · exact .fault
    · cases lexeme with
      | identifier | keyword => exact .ok (List.suffix_cons _ rest) (Nat.le_refl _)
      | _ => exact .fault

instance : Reads expectString fun _ => 1 where
  passes s := by
    obtain ⟨_ | ⟨⟨lexeme, mark⟩, rest⟩, finish⟩ := s
    · exact .fault
    · cases lexeme with
      | string => exact .ok (List.suffix_cons _ rest) (Nat.le_refl _)
      | _ => exact .fault

instance : Reads endStatement fun _ => 0 :=
  .andThen fun _ => .ite .pure <|
    .andThen fun _ => .andThen fun _ => .andThen fun _ => .ite .pure .failFound

instance : Reads refusePattern fun _ => 0 :=
  .andThen fun _ => .andThen fun _ => .ite ⟨fun _ => .fault⟩ .pure

instance (kind : VariableKind) (items : List (Declarator Text)) :
    Reads (Grammar.checkInitializers kind items) fun _ => 0 := by
  unfold Grammar.checkInitializers
  split
  · exact ⟨fun _ => .fault⟩
  · exact .pure

end Parser

namespace Grammar

open LibraryDescriptor.Parser

variable {α : Type}

/-! ## Ranks -/

namespace Rule

/-- How many calls a call of a function may cost, itself included, before a token is taken. -/
def rank : Rule → Nat
  | primary | property | variableStatement => 2
  | properties => 3
  | leftHandSide => 4
  | unary => 5
  | binary => 7
  | conditional => 8
  | assignment => 9
  | arguments | elements => 10
  | expression => 11
  | expressionStatement | optionalBefore => 12
  | statement => 13
  | blockItems | caseItems | moduleItem => 14
  | moduleItems => 15
  | _ => 1

/-- How many tokens a function takes at least. -/
def takes : Rule → Nat
  | moreExpressions | climb | tail | propertyValue | optionalBefore | catchClause | caseItems
  | moduleItems => 0
  | _ => 1

/-- Whether a function is called only where a token is ahead. -/
def needsToken : Rule → Bool
  | jump | variableStatement | variableDeclaration => true
  | _ => false

end Rule

/-- Whether every call has less left to pay with than the call around it, the outer ones less than a
limit. -/
def Calls.Descends : Calls → Nat → Prop
  | none, _ => True
  | call rule ahead inside after, limit =>
    16 * ahead + rule.rank < limit ∧ inside.Descends (16 * ahead + rule.rank) ∧ after.Descends limit

namespace Calls.Descends

variable {calls : Calls} {limit : Nat}

theorem lt (descends : calls.Descends limit) {rule : Rule} {n : Nat}
    (member : (rule, n) ∈ calls.list) : 16 * n + rule.rank < limit := by
  induction calls generalizing limit with
  | none => cases member
  | call callee ahead inside after inner outer =>
    obtain ⟨below, within, rest⟩ := descends
    rcases List.mem_cons.mp member with same | member
    · cases same
      exact below
    rcases List.mem_append.mp member with member | member
    · exact Nat.lt_trans (inner within member) below
    · exact outer rest member

theorem progresses (descends : calls.Descends limit) : calls.Progresses := by
  induction calls generalizing limit with
  | none => trivial
  | call rule ahead inside after inner outer =>
    obtain ⟨-, within, rest⟩ := descends
    refine ⟨fun n member => ?_, inner within, outer rest⟩
    have below := within.lt member
    omega

end Calls.Descends

/-- Whether the rest of the body of a function keeps within its rank, after so many tokens and so
many calls. What is taken or called next needs a token ahead where `ready` says that there is one,
and a numeral is read only if it is one of the lexemes `known` to be ahead. -/
inductive Body.Fits (rule : Rule) (known : List Lexeme) : Body α → Nat → Nat → Bool → Prop
  | done {a taken spent ready}
    (room : rule.takes ≤ taken ∧ spent + 16 * rule.takes < rule.rank + 16 * taken := by decide) :
    Fits rule known (.done a) taken spent ready
  | call {callee args next taken spent ready}
    (after : ∀ b, Fits rule known (next b) (taken + callee.takes) (spent + callee.rank) false)
    (room : (callee.needsToken = true → ready = true) ∧
      spent + callee.rank < rule.rank + 16 * taken := by decide) :
    Fits rule known (.call callee args next) taken spent ready
  | read {β taken spent ready count} {p : Parser β} [Reads p count] {next}
    (after : ∀ b, Fits rule known (next b) (taken + count b) spent false) :
    Fits rule known (.read p next) taken spent ready
  | current {next taken spent ready} (ended : Fits rule known (next none) taken spent false)
    (found : ∀ x ∈ known, Fits rule known (next (some x)) taken spent true) :
    Fits rule known (.read current? next) taken spent ready
  | isMark {m next taken spent ready} (yes : Fits rule known (next true) taken spent true)
    (no : Fits rule known (next false) taken spent ready) :
    Fits rule known (.read (Parser.isMark m) next) taken spent ready
  | mark {next taken spent ready}
    (after : ∀ place, Fits rule known (next place) taken spent ready) :
    Fits rule known (.read mark next) taken spent ready
  | advance {next taken spent} (after : Fits rule known (next ()) (taken + 1) spent false) :
    Fits rule known (.read advance next) taken spent true
  | numberOf {raw next taken spent ready} (present : .number raw ∈ known)
    (after : ∀ value, Fits rule known (next value) taken spent false) :
    Fits rule known (.read (numberOf raw) next) taken spent ready
  | fail {β taken spent ready} {p : Parser β} {next}
    (fails : ∀ s, ∃ position fault, p s = .error (.syntactic position fault) := by
      exact fun _ => ⟨_, _, rfl⟩) :
    Fits rule known (.read p next) taken spent ready

namespace Body.Fits

variable {rule : Rule} {known : List Lexeme} {taken spent : Nat} {ready : Bool}

theorem seen {f : Found → Body α} (ended : Fits rule known (f none) taken spent false)
    (found : ∀ x ∈ known, Fits rule known (f (some x)) taken spent true) :
    Fits rule known (liftM current? >>= f) taken spent ready := .current ended found

theorem test {p : Parser Bool} [Reads p fun _ => 0] {next : Bool → Body α}
    (yes : Fits rule known (next true) taken spent false)
    (no : Fits rule known (next false) taken spent false) :
    Fits rule known (.read p next) taken spent ready :=
  .read (Bool.rec no yes)

theorem accept {p : Parser Bool} [Reads p Bool.toNat] {next : Bool → Body α}
    (yes : Fits rule known (next true) (taken + 1) spent false)
    (no : Fits rule known (next false) taken spent false) :
    Fits rule known (.read p next) taken spent ready :=
  .read (Bool.rec no yes)

theorem ite {c : Prop} [Decidable c] {yes no : Body α}
    (first : Fits rule known yes taken spent ready)
    (second : Fits rule known no taken spent ready) :
    Fits rule known (if c then yes else no) taken spent ready := by
  split
  · exact first
  · exact second

end Body.Fits

/-- Every body keeps within the rank of its function. The rules follow the body step by step. -/
theorem Rule.fits {known : List Lexeme} (rule : Rule) (args : rule.Args) :
    (rule.body args).Fits rule known 0 0 rule.needsToken := by
  cases rule
  -- Two bodies choose by something else than a token.
  case' tail => obtain ⟨_ | _, head⟩ := args
  case' expressionStatement =>
    refine .mark fun place => .call fun value => ?_
    simp only [Body.bind]
  all_goals
    repeat' first
      | refine .call fun _ => ?_
      | exact .done
      | refine .accept ?_ ?_
      | refine .isMark ?_ ?_
      | refine .test ?_ ?_
      | refine .seen ?_ fun x member => ?_
      | refine .mark fun _ => ?_
      | refine .read fun _ => ?_
      | refine .advance ?_
      | refine .ite ?_ ?_
      | exact .fail
      | refine .numberOf (by grind) fun _ => ?_
      | split

/-! ## Runs -/

/-- An outcome that is a place behind so many tokens or a way to fail, after so many calls. -/
inductive Bounded (origin : Tokens) (takes limit calls : Nat) :
    Except SourceError (α × Tokens) → Prop
  | ok {a s} (reach : s.ahead <:+ origin.ahead)
    (taken : s.ahead.length + takes ≤ origin.ahead.length)
    (few : calls + 16 * (s.ahead.length + takes) < limit) :
    Bounded origin takes limit calls (.ok (a, s))
  | error {e} (refused : origin.Refuses e) (few : calls < limit) :
    Bounded origin takes limit calls (.error e)

theorem Bounded.weaken {origin : Tokens} {takes limit calls limit' calls' : Nat}
    {outcome : Except SourceError (α × Tokens)} (bounded : Bounded origin takes limit calls outcome)
    (room : calls' + limit ≤ calls + limit') : Bounded origin takes limit' calls' outcome := by
  cases bounded with
  | ok reach taken few => exact .ok reach taken (by omega)
  | error refused few => exact .error refused (by omega)

/-- A call of a function at a place has a run that its rank and the tokens ahead pay for. -/
def Rule.Halts (rule : Rule) (args : rule.Args) (s : Tokens) : Prop :=
  ∃ outcome inside, (rule.body args).Runs s outcome inside ∧
    inside.Descends (16 * s.ahead.length + rule.rank) ∧
    Bounded s rule.takes (16 * s.ahead.length + rule.rank) inside.size outcome

/-- The rest of a body that keeps within the rank has a run, if smaller calls have. -/
theorem Body.Fits.runs {rule : Rule} {origin : Tokens}
    (callees : ∀ (callee : Rule) (args : callee.Args) (s : Tokens),
      16 * s.ahead.length + callee.rank < 16 * origin.ahead.length + rule.rank →
      (callee.needsToken = true → s.ahead ≠ []) → callee.Halts args s)
    {body : Body α} {taken spent : Nat} {ready : Bool}
    (fits : body.Fits rule origin.lexemes taken spent ready) {s : Tokens}
    (reach : s.ahead <:+ origin.ahead) (past : s.ahead.length + taken ≤ origin.ahead.length)
    (next : ready = true → s.ahead ≠ []) (room : spent < rule.rank + 16 * taken) :
    ∃ outcome calls, body.Runs s outcome calls ∧
      calls.Descends (16 * origin.ahead.length + rule.rank) ∧
      Bounded origin rule.takes (16 * (s.ahead.length + taken) + rule.rank) (calls.size + spent)
        outcome := by
  induction fits generalizing s with
  | done fit =>
    refine ⟨_, _, .done, trivial, .ok reach (by omega) ?_⟩
    simp only [Calls.size]
    omega
  | @call callee args _ taken spent _ _ fit ih =>
    have below : 16 * s.ahead.length + callee.rank < 16 * origin.ahead.length + rule.rank := by
      omega
    obtain ⟨_, inside, runs, within, bounded⟩ := callees callee args s below fun needs =>
      next (fit.1 needs)
    cases bounded with
    | error refused few =>
      refine ⟨_, _, .callFailed runs, ⟨below, within, trivial⟩, .error (refused.before reach) ?_⟩
      simp only [Calls.size]
      omega
    | @ok b s' reach' taken' few =>
      -- What the callee has not used of its rank and its tokens is left for the rest.
      obtain ⟨_, calls, after, within', bounded⟩ :=
        ih b (reach'.trans reach) (by omega) (by simp) (by omega)
      refine ⟨_, _, .call runs after, ⟨below, within, within'⟩, bounded.weaken ?_⟩
      simp only [Calls.size]
      omega
  | @read β taken spent _ count p reads _ _ ih =>
    have passes := reads.passes s
    cases result : p s with
    | error e =>
      rw [result] at passes
      cases passes
      exact ⟨_, _, .failed result, trivial, .error trivial (by simp only [Calls.size]; omega)⟩
    | ok r =>
      rw [result] at passes
      cases passes with
      | @ok b s' reach' taken' =>
        obtain ⟨_, calls, after, within, bounded⟩ :=
          ih b (reach'.trans reach) (by omega) (by simp) (by omega)
        exact ⟨_, _, .read result after, within, bounded.weaken (by omega)⟩
  | current _ _ ended found =>
    obtain ⟨_ | ⟨token, rest⟩, finish⟩ := s
    · obtain ⟨_, _, after, rest⟩ := ended reach past (by simp) room
      exact ⟨_, _, .read rfl after, rest⟩
    · have member : token.lexeme ∈ origin.lexemes :=
        List.mem_map_of_mem (reach.subset List.mem_cons_self)
      obtain ⟨_, _, after, rest⟩ := found _ member reach past (by simp) room
      exact ⟨_, _, .read rfl after, rest⟩
  | @isMark m _ taken spent ready _ _ yes no =>
    cases same : s.current? == some (.punctuator m) with
    | true =>
      have present : s.ahead ≠ [] := by
        intro empty
        simp [Tokens.current?, empty] at same
      obtain ⟨_, _, after, rest⟩ := yes reach past (fun _ => present) room
      exact ⟨_, _, .read (congrArg (fun b => Except.ok (b, s)) same) after, rest⟩
    | false =>
      obtain ⟨_, _, after, rest⟩ := no reach past next room
      exact ⟨_, _, .read (congrArg (fun b => Except.ok (b, s)) same) after, rest⟩
  | mark _ ih =>
    obtain ⟨_, _, after, rest⟩ := ih s.mark reach past next room
    exact ⟨_, _, .read rfl after, rest⟩
  | advance _ ih =>
    obtain ⟨_ | ⟨token, rest⟩, finish⟩ := s
    · exact absurd rfl (next rfl)
    · simp only [List.length_cons] at past
      obtain ⟨_, _, after, within, bounded⟩ := ih (s := ⟨rest, finish⟩)
        ((List.suffix_cons token rest).trans reach) (by simp only; omega) (by simp) (by omega)
      refine ⟨_, _, .read rfl after, within, bounded.weaken ?_⟩
      simp only [List.length_cons]
      omega
  | @numberOf raw _ _ _ _ present _ ih =>
    cases value : Numeral.value? raw with
    | none =>
      have failed : Parser.numberOf raw s = .error (.unreadableNumber raw) := by
        simp only [Parser.numberOf, value]
        rfl
      exact ⟨_, _, .failed failed, trivial,
        .error ⟨present, value⟩ (by simp only [Calls.size]; omega)⟩
    | some number =>
      have read : Parser.numberOf raw s = .ok (number, s) := by
        simp only [Parser.numberOf, value]
        rfl
      obtain ⟨_, _, after, rest⟩ := ih number reach past (by simp) room
      exact ⟨_, _, .read read after, rest⟩
  | fail fails =>
    obtain ⟨_, _, failed⟩ := fails s
    exact ⟨_, _, .failed failed, trivial, .error trivial (by simp only [Calls.size]; omega)⟩

theorem Rule.halts (rule : Rule) (args : rule.Args) (s : Tokens)
    (ready : rule.needsToken = true → s.ahead ≠ []) : rule.Halts args s := by
  have room : 0 < rule.rank + 16 * 0 := by cases rule <;> decide
  -- A call goes to a function of a smaller rank, or behind a token, which is worth more than ranks.
  exact (Rule.fits rule args).runs (fun callee args s' _ ready => Rule.halts callee args s' ready)
    List.suffix_rfl (Nat.le_refl _) ready room
termination_by 16 * s.ahead.length + rule.rank

theorem moduleItems_runs (tokens : Tokens) :
    ∃ outcome calls, (call .moduleItems ()).Runs tokens outcome calls ∧ calls.Progresses ∧
      calls.size ≤ depthBound tokens ∧ ∀ e, outcome = .error e → tokens.Refuses e := by
  obtain ⟨_, inside, runs, within, bounded⟩ :=
    Rule.halts .moduleItems () tokens (by simp [Rule.needsToken])
  have descends : (Calls.call .moduleItems tokens.ahead.length inside .none).Descends _ :=
    ⟨Nat.lt_succ_self _, within, trivial⟩
  cases bounded with
  | ok _ _ few =>
    refine ⟨_, _, .call runs .done, descends.progresses, ?_, by simp⟩
    simp only [Calls.size, depthBound, Rule.rank, Rule.takes] at few ⊢
    omega
  | error refused few =>
    refine ⟨_, _, .callFailed runs, descends.progresses, ?_, by rintro e ⟨⟩; exact refused⟩
    simp only [Calls.size, depthBound, Rule.rank] at few ⊢
    omega

theorem moduleItems_eq {tokens : Tokens}
    {outcome : Except SourceError (List (Statement Text) × Tokens)} {calls : Calls}
    (runs : (call .moduleItems ()).Runs tokens outcome calls) {depth : Nat}
    (deep : calls.size ≤ depth) : moduleItems depth tokens = outcome := by
  have same : (call .moduleItems ()).run (Rule.parser depth) = moduleItems depth := bind_pure _
  rw [← same]
  exact runs.run_eq deep

theorem refuses_of_module {tokens : Tokens} {e : SourceError} (failed : module tokens = .error e) :
    tokens.Refuses e := by
  obtain ⟨outcome, calls, runs, -, few, refused⟩ := moduleItems_runs tokens
  obtain failed | ⟨_, _, done⟩ := bind_eq_error.mp failed
  · exact refused e ((moduleItems_eq runs few).symm.trans failed)
  · cases done

theorem length_of_afterParens {nesting : Nat} {ahead rest : List Token}
    (found : afterParens? nesting ahead = some rest) : rest.length < ahead.length := by
  induction ahead generalizing nesting with
  | nil => cases found
  | cons token tail ih =>
    have later {nesting : Nat} (found : afterParens? nesting tail = some rest) :
        rest.length < (token :: tail).length := Nat.lt_succ_of_lt (ih found)
    obtain ⟨lexeme, mark⟩ := token
    cases lexeme with
    | punctuator m =>
      cases m with
      | parenClose =>
        cases nesting with
        | zero => cases found; exact Nat.lt_succ_self _
        | succ => exact later found
      | _ => exact later found
    | _ => exact later found

/-- Parsing ends for all tokens, with a module, at a fault or at an unreadable numeral. It has a run
with at most 16 calls for each token and 16 more, in which tokens are taken between a call of a
function and each call of the same function inside of it. Functions call each other as their bodies
say, and give what the run gives if they are allowed as many calls. The search for the end of a
parenthesis passes tokens, too. -/
theorem module_terminates (tokens : Tokens) :
    (∀ rule args depth,
      Rule.parser (depth + 1) rule args = (rule.body args).run (Rule.parser (rule.inner depth))) ∧
    (∃ outcome calls, (call .moduleItems ()).Runs tokens outcome calls ∧ calls.Progresses ∧
      calls.size ≤ 16 * (tokens.ahead.length + 1) ∧
      ∀ depth, calls.size ≤ depth → moduleItems depth tokens = outcome) ∧
    (∀ nesting ahead rest, afterParens? nesting ahead = some rest → rest.length < ahead.length) ∧
    ((∃ program, module tokens = .ok program) ∨
      ∃ e, module tokens = .error e ∧ tokens.Refuses e) := by
  refine ⟨fun rule args depth => rule.parser_succ depth args, ?_,
    fun _ _ _ => length_of_afterParens, ?_⟩
  · obtain ⟨outcome, calls, runs, progresses, few, -⟩ := moduleItems_runs tokens
    exact ⟨outcome, calls, runs, progresses, few, fun depth deep => moduleItems_eq runs deep⟩
  · cases result : module tokens with
    | ok program => exact .inl ⟨program, rfl⟩
    | error e => exact .inr ⟨e, rfl, refuses_of_module result⟩

end Grammar

end LibraryDescriptor
