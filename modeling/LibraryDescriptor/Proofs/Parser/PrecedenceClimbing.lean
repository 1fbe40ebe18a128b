import LibraryDescriptor.Proofs.Parser.Ensures
import LibraryDescriptor.Proofs.Parser.Reading

/-!
# Chains of operators

A chain of names with binary operators between them is read as the one tree that has the names and
operators in this order and groups them as tightly as they bind. Where `in` is no operator the chain
ends in front of the first one.

* `Expression.inOrder?` — the chain that a tree of operators is read off as.
* `Expression.isGrouped` — every operand of an operator binds tightly enough.
* `Expression.isGrouped_unique` — a chain has at most one grouped tree.
* `climbs_cons`, `climbs` — one step of climbing, and climbing to the end of a chain.
* `binary_chain` — a chain is read as its grouped tree, unless it mixes `??` with `||` or `&&`.
-/

namespace LibraryDescriptor

abbrev Link := BinaryOperator × Text

/-! ## How tightly operators bind -/

namespace BinaryOperator

abbrev precedence (op : BinaryOperator) : Nat := op.precedence?.getD 0

/-- How tightly an operator binds at least that stands in the left operand of another. -/
def leftLeast (op : BinaryOperator) : Nat :=
    if op == .power then op.precedence + 1 else op.precedence

/-- How tightly an operator binds at least that stands in the right operand of another. -/
def rightLeast (op : BinaryOperator) : Nat :=
    if op == .power then op.precedence else op.precedence + 1

def apply (op : BinaryOperator) (left right : Expression Text) : Expression Text :=
  if op.isLogical then .logical op left right else .binary op left right

/-- Nothing binds as tightly as a power. -/
theorem precedence_lt_power {op : BinaryOperator} (weaker : op ≠ .power) :
    op.precedence < BinaryOperator.power.precedence := by
  cases op with
  | power => exact absurd rfl weaker
  | other => exact Nat.succ_pos 11
  | _ => decide

theorem precedence_le_power (op : BinaryOperator) :
    op.precedence ≤ BinaryOperator.power.precedence := by
  by_cases power : op = .power
  · exact Nat.le_of_eq (congrArg _ power)
  · exact Nat.le_of_lt (precedence_lt_power power)

theorem le_leftLeast (op : BinaryOperator) : op.precedence ≤ op.leftLeast := by
  unfold leftLeast
  split <;> omega

theorem le_rightLeast (op : BinaryOperator) : op.precedence ≤ op.rightLeast := by
  unfold rightLeast
  split <;> omega

/-- An operator that is too loose for the right operand of another can have the whole operation as
its left operand, and no other can. -/
theorem leftLeast_le_iff {op next : BinaryOperator} :
    next.leftLeast ≤ op.precedence ↔ next.precedence < op.rightLeast := by
  unfold leftLeast rightLeast
  by_cases power : op = .power <;> by_cases nextPower : next = .power
  · subst power nextPower
    decide
  · have := precedence_lt_power nextPower
    subst power
    rw [if_neg (by simpa using nextPower), if_pos (beq_self_eq_true _)]
    omega
  · have := precedence_lt_power power
    subst nextPower
    rw [if_pos (beq_self_eq_true _), if_neg (by simpa using power)]
    omega
  · rw [if_neg (by simpa using nextPower), if_neg (by simpa using power)]
    omega

end BinaryOperator

/-! ## Trees of operators -/

namespace Expression

def operator? : Expression Text → Option BinaryOperator
  | .binary op _ _ | .logical op _ _ => some op
  | _ => none

/-- Whether an expression has no operator of its own that binds less tightly than `least`. -/
def holdsAt (least : Nat) (e : Expression Text) : Bool := e.operator?.all (least ≤ ·.precedence)

/-- The first name of a tree of operators and the links behind it, in order; `none` if there is
anything else in the tree. -/
def inOrder? : Expression Text → Option (Text × List Link)
  | .identifier name => some (name, [])
  | .binary op left right =>
    if op.isLogical then none
    else do
      let (first, before) ← left.inOrder?
      let (next, after) ← right.inOrder?
      return (first, before ++ (op, next) :: after)
  | .logical op left right =>
    if op.isLogical then do
      let (first, before) ← left.inOrder?
      let (next, after) ← right.inOrder?
      return (first, before ++ (op, next) :: after)
    else none
  | _ => none

/-- Whether all operators bind tightly enough for the operands they stand in. Powers group to the
right, all others to the left. -/
def isGrouped : Expression Text → Bool
  | .binary op left right | .logical op left right =>
    left.holdsAt op.leftLeast && right.holdsAt op.rightLeast && left.isGrouped && right.isGrouped
  | _ => true

section

variable {op : BinaryOperator} {e left right : Expression Text} {first next : Text}
  {before after links : List Link}

theorem operator?_apply : (op.apply left right).operator? = some op := by
  unfold BinaryOperator.apply
  split <;> rfl

theorem isGrouped_apply :
    (op.apply left right).isGrouped = (left.holdsAt op.leftLeast && right.holdsAt op.rightLeast &&
      left.isGrouped && right.isGrouped) := by
  unfold BinaryOperator.apply
  split <;> rfl

theorem inOrder?_apply (leftRead : left.inOrder? = some (first, before))
    (rightRead : right.inOrder? = some (next, after)) :
    (op.apply left right).inOrder? = some (first, before ++ (op, next) :: after) := by
  unfold BinaryOperator.apply
  split <;> simp [inOrder?, *]

/-- A tree that is read off as a chain is a name or an operation of two such trees. -/
theorem inOrder?_cases (read : e.inOrder? = some (first, links)) :
    e = .identifier first ∧ links = [] ∨
      ∃ op left right before next after, e = BinaryOperator.apply op left right ∧
        left.inOrder? = some (first, before) ∧ right.inOrder? = some (next, after) ∧
        links = before ++ (op, next) :: after := by
  match e with
  | .identifier name =>
    simp only [inOrder?, Option.some.injEq, Prod.mk.injEq] at read
    exact .inl ⟨congrArg _ read.1, read.2.symm⟩
  | .binary op left right | .logical op left right =>
    simp only [inOrder?] at read
    split at read
    all_goals first
      | cases read
      | next kind =>
        obtain ⟨⟨_, before⟩, leftRead, read⟩ := Option.bind_eq_some_iff.mp read
        obtain ⟨⟨next, after⟩, rightRead, read⟩ := Option.bind_eq_some_iff.mp read
        obtain ⟨rfl, rfl⟩ := Prod.mk.inj (Option.some.inj read)
        exact .inr ⟨op, left, right, before, next, after, by simp [BinaryOperator.apply, kind],
          leftRead, rightRead, rfl⟩

end

theorem holdsAt_of_links {e : Expression Text} {first : Text} {links : List Link} {least : Nat}
    (read : e.inOrder? = some (first, links)) (tight : ∀ link ∈ links, least ≤ link.1.precedence) :
    e.holdsAt least = true := by
  rcases inOrder?_cases read with ⟨rfl, -⟩ | ⟨op, _, _, _, next, _, rfl, -, -, rfl⟩
  · rfl
  · simpa [holdsAt, operator?_apply] using tight (op, next) (by simp)

/-- Where an operation binds tightly enough, so does all that is in it. -/
theorem least_le_of_mem {e : Expression Text} {first : Text} {links : List Link} {least : Nat}
    (read : e.inOrder? = some (first, links)) (grouped : e.isGrouped = true)
    (holds : e.holdsAt least = true) : ∀ link ∈ links, least ≤ link.1.precedence := by
  rcases inOrder?_cases read with ⟨-, rfl⟩ |
    ⟨op, left, right, before, next, after, rfl, leftRead, rightRead, rfl⟩
  · exact nofun
  · rw [isGrouped_apply] at grouped
    simp only [Bool.and_eq_true] at grouped
    obtain ⟨⟨⟨leftHolds, rightHolds⟩, leftGrouped⟩, rightGrouped⟩ := grouped
    have here : least ≤ op.precedence := by simpa [holdsAt, operator?_apply] using holds
    intro link member
    rcases List.mem_append.mp member with earlier | later
    · have := least_le_of_mem leftRead leftGrouped leftHolds link earlier
      have := op.le_leftLeast
      omega
    · rcases List.mem_cons.mp later with rfl | later
      · exact here
      · have := least_le_of_mem rightRead rightGrouped rightHolds link later
        have := op.le_rightLeast
        omega
termination_by links.length

/-- The operators of two grouped trees of one chain: that of the second does not stand behind that
of the first, or each of them would be in an operand of the other. -/
theorem before_length_le {left right : Expression Text} {op op' : BinaryOperator}
    {first next next' : Text} {before after before' after' : List Link}
    (rightRead : right.inOrder? = some (next, after)) (rightGrouped : right.isGrouped = true)
    (rightHolds : right.holdsAt op.rightLeast = true)
    (leftRead : left.inOrder? = some (first, before')) (leftGrouped : left.isGrouped = true)
    (leftHolds : left.holdsAt op'.leftLeast = true)
    (same : before ++ (op, next) :: after = before' ++ (op', next') :: after') :
    before'.length ≤ before.length := by
  rcases List.append_eq_append_iff.mp same with ⟨mid, rfl, rest⟩ | ⟨mid, rfl, -⟩
  · cases mid with
    | nil => simp
    | cons link mid =>
      obtain ⟨rfl, rfl⟩ := List.cons.inj rest
      have tight : op'.leftLeast ≤ op.precedence :=
        least_le_of_mem leftRead leftGrouped leftHolds (op, next) (by simp)
      have behind : op.rightLeast ≤ op'.precedence :=
        least_le_of_mem rightRead rightGrouped rightHolds (op', next') (by simp)
      have := BinaryOperator.leftLeast_le_iff.mp tight
      omega
  · simp

/-- A chain has at most one grouped tree. -/
theorem isGrouped_unique {e e' : Expression Text} {first : Text} {links : List Link}
    (read : e.inOrder? = some (first, links)) (grouped : e.isGrouped = true)
    (read' : e'.inOrder? = some (first, links)) (grouped' : e'.isGrouped = true) : e = e' := by
  rcases inOrder?_cases read with ⟨rfl, rfl⟩ |
    ⟨op, left, right, before, next, after, rfl, leftRead, rightRead, rfl⟩ <;>
  rcases inOrder?_cases read' with ⟨rfl, same⟩ |
    ⟨op', left', right', before', next', after', rfl, leftRead', rightRead', same⟩
  · rfl
  · simp at same
  · simp at same
  · rw [isGrouped_apply] at grouped grouped'
    simp only [Bool.and_eq_true] at grouped grouped'
    obtain ⟨⟨⟨leftHolds, rightHolds⟩, leftGrouped⟩, rightGrouped⟩ := grouped
    obtain ⟨⟨⟨leftHolds', rightHolds'⟩, leftGrouped'⟩, rightGrouped'⟩ := grouped'
    have shorter := before_length_le rightRead rightGrouped rightHolds leftRead' leftGrouped'
      leftHolds' same
    have longer := before_length_le rightRead' rightGrouped' rightHolds' leftRead leftGrouped
      leftHolds same.symm
    obtain ⟨rfl, rest⟩ := List.append_inj same (by omega)
    obtain ⟨link, rfl⟩ := List.cons.inj rest
    obtain ⟨rfl, rfl⟩ := Prod.mk.inj link
    rw [isGrouped_unique leftRead leftGrouped leftRead' leftGrouped',
      isGrouped_unique rightRead rightGrouped rightRead' rightGrouped']
termination_by links.length

end Expression

/-! ## Reading a chain -/

def linkLexemes (links : List Link) : List Lexeme :=
  links.flatMap fun link => [link.1.lexeme, .identifier link.2]

namespace Tokens

def drop (s : Tokens) (n : Nat) : Tokens := { s with ahead := s.ahead.drop n }

variable {s : Tokens}

theorem advance_drop (n : Nat) : s.advance.drop n = s.drop (n + 1) := by
  simp [advance, drop]

theorem drop_drop (m n : Nat) : (s.drop m).drop n = s.drop (m + n) := by
  simp [drop]

end Tokens

namespace Grammar

variable {d least : Nat} {allowIn : Bool} {s : Tokens} {first : Text} {links : List Link}
  {rest : List Lexeme}

/-- Whether an operator goes on with a chain of operators that bind as tightly as `least`. -/
def joins (least : Nat) (allowIn : Bool) (link : Link) : Bool :=
  least ≤ link.1.precedence && (link.1 != .isIn || allowIn)

/-- Which of the operators that must not be mixed are in a chain. -/
def Logicals.ofLinks (links : List Link) : Logicals :=
  ⟨links.any (·.1 = .nullish), links.any fun link => link.1 = .or ∨ link.1 = .and⟩

theorem Logicals.ofLinks_operation (before after : List Link) (op : BinaryOperator) (next : Text) :
    Logicals.ofLinks (before ++ (op, next) :: after) =
      (Logicals.ofLinks before).combine (Logicals.ofLinks after) op := by
  simp only [ofLinks, combine, List.any_append, List.any_cons, Logicals.mk.injEq]
  constructor <;> grind

/-- What is mixed in a part of a chain is mixed in the chain. -/
theorem Logicals.mixed_of_subset {part whole : List Link} (within : part ⊆ whole)
    (mixed : (Logicals.ofLinks part).mixed = true) : (Logicals.ofLinks whole).mixed = true := by
  simp only [Logicals.mixed, ofLinks, Bool.and_eq_true, List.any_eq_true] at mixed ⊢
  obtain ⟨⟨a, aMember, aHolds⟩, b, bMember, bHolds⟩ := mixed
  exact ⟨⟨a, within aMember, aHolds⟩, b, within bMember, bHolds⟩

/-- What a chain is read as: an error if it mixes the logical operators, and else a grouped tree,
with the tokens behind the chain left. -/
def ReadsAs (result : Except SourceError ((Expression Text × Logicals) × Tokens)) (first : Text)
    (links : List Link) (left : Tokens) : Prop :=
  if (Logicals.ofLinks links).mixed then
    ∃ place, result = .error (.syntactic place .mixedNullish)
  else
    ∃ e, result = .ok ((e, Logicals.ofLinks links), left) ∧
      e.inOrder? = some (first, links) ∧ e.isGrouped = true

/-- A chain of operators of the language, in front of a token that does not hold on to it. -/
structure Spells (s : Tokens) (links : List Link) (rest : List Lexeme) : Prop where
  lexemes : s.lexemes = linkLexemes links ++ rest
  known : ∀ link ∈ links, BinaryOperator.ofLexeme? link.1.lexeme = some link.1
  stop : ∀ x, rest.head? = some x → x.hold ≤ 3

namespace Spells

variable {link : Link}

theorem next (spells : Spells s (link :: links) rest) : s.current? = some link.1.lexeme :=
  Tokens.current?_of_lexemes spells.lexemes

theorem name (spells : Spells s (link :: links) rest) :
    s.advance.current? = some (.identifier link.2) :=
  Tokens.current?_of_lexemes (Tokens.advance_of_lexemes spells.lexemes)

theorem tail (spells : Spells s (link :: links) rest) : Spells s.advance.advance links rest :=
  ⟨Tokens.advance_of_lexemes (Tokens.advance_of_lexemes spells.lexemes),
    fun other member => spells.known other (List.mem_cons_of_mem _ member), spells.stop⟩

/-- What stands behind an operand. -/
theorem hold_le (spells : Spells s links rest) {x : Lexeme} (next : s.current? = some x) :
    x.hold ≤ 15 := by
  cases links with
  | nil =>
    rw [Tokens.current?_eq, spells.lexemes] at next
    exact Nat.le_trans (spells.stop x next) (by decide)
  | cons link links =>
    obtain rfl := Option.some.inj (next.symm.trans spells.next)
    have known := spells.known link List.mem_cons_self
    rw [Lexeme.hold_operator known]
    exact Nat.add_le_add_left link.1.precedence_le_power 3

theorem drop {taken : List Link} (spells : Spells s (taken ++ links) rest) :
    Spells (s.drop (2 * taken.length)) links rest := by
  induction taken generalizing s with
  | nil => exact spells
  | cons link taken ih =>
    have later := ih spells.tail
    rw [Tokens.advance_drop, Tokens.advance_drop] at later
    exact later

end Spells

/-! ## Climbing -/

/-- Climbing from an operand that is a grouped tree itself reads on to the end of the chain. -/
def Climbs (links : List Link) : Prop :=
  ∀ ⦃d least : Nat⦄ ⦃allowIn : Bool⦄ ⦃s : Tokens⦄ ⦃rest : List Lexeme⦄ ⦃left : Expression Text⦄
    ⦃first : Text⦄ ⦃before : List Link⦄,
    Spells s links rest → 2 * links.length + 4 ≤ d → 0 < least →
    left.inOrder? = some (first, before) → left.isGrouped = true →
    (Logicals.ofLinks before).mixed = false →
    (∀ link, links.head? = some link → joins least allowIn link = true →
      left.holdsAt link.1.leftLeast = true) →
      ReadsAs (climb d least allowIn false left (.ofLinks before) s) first
        (before ++ links.takeWhile (joins least allowIn))
        (s.drop (2 * (links.takeWhile (joins least allowIn)).length))

/-- A chain is read by climbing from its first name. -/
theorem Climbs.binary (climbs : Climbs links) (name : s.current? = some (.identifier first))
    (spells : Spells s.advance links rest) (deep : 2 * links.length + 5 ≤ d) (pos : 0 < least) :
    ReadsAs (binary d least allowIn s) first (links.takeWhile (joins least allowIn))
      (s.drop (2 * (links.takeWhile (joins least allowIn)).length + 1)) := by
  obtain ⟨d, rfl⟩ := Nat.exists_eq_add_of_le' (show 4 ≤ d by omega)
  have operand := unary_name (d := d) name fun x next => spells.hold_le next
  rw [binary_operand operand, name, ← Tokens.advance_drop]
  exact @climbs _ _ _ _ _ _ _ [] spells (by omega) pos rfl rfl rfl fun _ _ _ => rfl

theorem takeWhile_eq_append {α : Type} {p q : α → Bool} (within : ∀ a, q a = true → p a = true)
    (list : List α) :
    list.takeWhile p = list.takeWhile q ++ (list.dropWhile q).takeWhile p := by
  induction list with
  | nil => rfl
  | cons a list ih =>
    by_cases inner : q a = true
    · simp [inner, within a inner, ih]
    · simp [inner]

theorem joins_least {link : Link} (joined : joins least allowIn link = true) :
    least ≤ link.1.precedence := by
  simp only [joins, Bool.and_eq_true, decide_eq_true_eq] at joined
  exact joined.1

/-- A link that goes on with a chain but not with a tighter one is too loose for that one. -/
theorem lt_of_not_joins {more : Nat} {link : Link} (joined : joins least allowIn link = true)
    (refused : joins more allowIn link = false) : link.1.precedence < more := by
  simp only [joins, Bool.and_eq_true, Bool.and_eq_false_iff,
    decide_eq_false_iff_not] at joined refused
  rcases refused with loose | shut
  · exact Nat.lt_of_not_le loose
  · rw [joined.2] at shut
    cases shut

theorem joins_of_le {least more : Nat} (le : least ≤ more) (link : Link)
    (joined : joins more allowIn link = true) : joins least allowIn link = true := by
  simp only [joins, Bool.and_eq_true, decide_eq_true_eq] at joined ⊢
  exact ⟨Nat.le_trans le joined.1, joined.2⟩

section Operation

variable {op : BinaryOperator} {left right : Expression Text} {next : Text}
  {inner outer : List Link}

/-- The right operand of an operator is made of links that bind tightly enough for it. -/
theorem operation_isGrouped (leftHolds : left.holdsAt op.leftLeast = true)
    (leftGrouped : left.isGrouped = true) (rightRead : right.inOrder? = some (next, inner))
    (rightGrouped : right.isGrouped = true)
    (taken : links.takeWhile (joins op.rightLeast allowIn) = inner) :
    (op.apply left right).isGrouped = true := by
  have rightHolds : right.holdsAt op.rightLeast = true := by
    refine Expression.holdsAt_of_links rightRead fun link member => ?_
    have joined := List.all_eq_true.mp (List.all_takeWhile ..) link (taken ▸ member)
    exact joins_least joined
  simp [Expression.isGrouped_apply, leftHolds, rightHolds, leftGrouped, rightGrouped]

/-- The link behind the right operand can have the operation as its left operand. -/
theorem operation_fits (left_over : links.dropWhile (joins op.rightLeast allowIn) = outer)
    (link : Link)
    (head : outer.head? = some link) (joined : joins least allowIn link = true) :
    (op.apply left right).holdsAt link.1.leftLeast = true := by
  have refused : joins op.rightLeast allowIn link = false := by
    have stopped := List.head?_dropWhile_not (joins op.rightLeast allowIn) links
    rwa [left_over, head] at stopped
  have loose := BinaryOperator.leftLeast_le_iff.mpr (lt_of_not_joins joined refused)
  simpa [Expression.holdsAt, Expression.operator?_apply] using loose

end Operation

section

variable {left : Expression Text} {before : List Link} {result : Except SourceError _}

/-- A chain that ends at once is the operand. -/
theorem ReadsAs.stop (unmixed : (Logicals.ofLinks before).mixed = false)
    (read : left.inOrder? = some (first, before)) (grouped : left.isGrouped = true) :
    ReadsAs (.ok ((left, .ofLinks before), s)) first (before ++ []) (s.drop 0) := by
  rw [List.append_nil, ReadsAs, unmixed]
  exact ⟨left, rfl, read, grouped⟩

theorem ReadsAs.ok (reads : ReadsAs result first links s)
    (unmixed : (Logicals.ofLinks links).mixed = false) :
    ∃ e, result = .ok ((e, .ofLinks links), s) ∧ e.inOrder? = some (first, links) ∧
      e.isGrouped = true := by
  rw [ReadsAs, unmixed] at reads
  exact reads

theorem ReadsAs.error (reads : ReadsAs result first links s)
    (mixed : (Logicals.ofLinks links).mixed = true) :
    ∃ place, result = .error (.syntactic place .mixedNullish) := by
  rw [ReadsAs, mixed] at reads
  exact reads

theorem ReadsAs.of_error (failed : ∃ place, result = .error (.syntactic place .mixedNullish))
    {part : List Link} (mixed : (Logicals.ofLinks part).mixed = true) (within : part ⊆ links) :
    ReadsAs result first links s := by
  rw [ReadsAs, Logicals.mixed_of_subset within mixed]
  exact failed

end

section Step

variable {op : BinaryOperator} {name : Text} {left : Expression Text} {before inner : List Link}
  {s' : Tokens} (found : s.current?.bind BinaryOperator.ofLexeme? = some op)

include found

theorem climb_refused {logicals : Logicals} {isUnary : Bool}
    (refused : ¬ joins least allowIn (op, name) = true) :
    climb (d + 1) least allowIn isUnary left logicals s = .ok ((left, logicals), s) := by
  refine climb_stop fun op' found' => ?_
  obtain rfl := Option.some.inj (found.symm.trans found')
  have shut : least ≤ op.precedence → op = .isIn ∧ allowIn = false := by simpa [joins] using refused
  exact (Nat.lt_or_ge op.precedence least).imp_right shut

/-- Mixed operators are noticed inside the right operand, or at the operator that brings them
together. -/
theorem climb_mixing (tight : least ≤ op.precedence) (allowed : op = .isIn → allowIn = true)
    (operand : ReadsAs (binary d op.rightLeast allowIn s.advance) name inner s')
    (mixed : (Logicals.ofLinks (before ++ (op, name) :: inner)).mixed = true) :
    ∃ place, climb (d + 1) least allowIn false left (.ofLinks before) s =
      .error (.syntactic place .mixedNullish) := by
  by_cases inside : (Logicals.ofLinks inner).mixed = true
  · obtain ⟨place, failed⟩ := operand.error inside
    exact ⟨place, climb_error found tight allowed (fun _ => rfl) failed⟩
  · obtain ⟨right, value, -⟩ := operand.ok (by simpa using inside)
    rw [Logicals.ofLinks_operation] at mixed
    exact ⟨_, climb_mixed found tight allowed (fun _ => rfl) value mixed⟩

end Step

theorem climbs_nil : Climbs [] := by
  intro d least allowIn s rest left first before spells deep pos read grouped unmixed _
  obtain ⟨d, rfl⟩ := Nat.exists_eq_add_of_le' (show 1 ≤ d by omega)
  rw [climb_stop]
  · exact .stop unmixed read grouped
  intro op found
  obtain ⟨x, next, found⟩ := Option.bind_eq_some_iff.mp found
  have head : rest.head? = some x := by
    rw [← next, Tokens.current?_eq, spells.lexemes]
    rfl
  exact .inl (Lexeme.precedence_lt (Nat.le_trans (spells.stop x head) (by omega)) found)

/-- One step: an operator takes its right operand, and climbing goes on from the operation. -/
theorem climbs_cons {link : Link}
    (shorter : ∀ more : List Link, more.length ≤ links.length → Climbs more) :
    Climbs (link :: links) := by
  intro d least allowIn s rest left first before spells deep pos read grouped unmixed fits
  obtain ⟨op, name⟩ := link
  obtain ⟨d, rfl⟩ := Nat.exists_eq_add_of_le' (show 1 ≤ d by omega)
  rw [List.length_cons] at deep
  have found : s.current?.bind BinaryOperator.ofLexeme? = some op := by
    rw [spells.next]
    exact spells.known (op, name) List.mem_cons_self
  by_cases joined : joins least allowIn (op, name) = true
  swap
  · rw [List.takeWhile_cons_of_neg joined, climb_refused found joined]
    exact .stop unmixed read grouped
  obtain ⟨tight, allowed⟩ : least ≤ op.precedence ∧ (op = .isIn → allowIn = true) := by
    simpa [joins, or_iff_not_imp_left] using joined
  have le : least ≤ op.rightLeast := Nat.le_trans tight op.le_rightLeast
  have operand : ReadsAs (binary d op.rightLeast allowIn s.advance) name
      (links.takeWhile (joins op.rightLeast allowIn)) _ :=
    (shorter links (Nat.le_refl _)).binary spells.name spells.tail (by omega)
      (Nat.lt_of_lt_of_le pos le)
  generalize inner_eq : links.takeWhile (joins op.rightLeast allowIn) = inner at operand
  generalize outer_eq : links.dropWhile (joins op.rightLeast allowIn) = outer
  obtain rfl : links = inner ++ outer := by
    rw [← inner_eq, ← outer_eq, List.takeWhile_append_dropWhile]
  have taken : before ++ ((op, name) :: (inner ++ outer)).takeWhile (joins least allowIn) =
      before ++ (op, name) :: inner ++ outer.takeWhile (joins least allowIn) := by
    rw [List.takeWhile_cons_of_pos joined, takeWhile_eq_append (joins_of_le le), inner_eq, outer_eq]
    simp
  rw [taken]
  by_cases mixed : (Logicals.ofLinks (before ++ (op, name) :: inner)).mixed = true
  · exact .of_error (climb_mixing found tight allowed operand mixed) mixed
      (List.subset_append_left ..)
  · rw [Bool.not_eq_true] at mixed
    obtain ⟨right, value, rightRead, rightGrouped⟩ := operand.ok (by
      by_contra inside
      rw [Bool.not_eq_false] at inside
      rw [Logicals.mixed_of_subset (by simp) inside] at mixed
      cases mixed)
    have unmixed' := Logicals.ofLinks_operation before inner op name ▸ mixed
    rw [climb_operator found tight allowed (fun _ => rfl) value unmixed',
      ← Logicals.ofLinks_operation,
      Tokens.advance_drop]
    have spells' : Spells (s.drop (2 * (inner.length + 1))) outer rest :=
      @Spells.drop _ _ _ ((op, name) :: inner) spells
    have next := shorter outer (by simp) spells' (d := d) (by simp at deep; omega) pos
      (Expression.inOrder?_apply read rightRead)
      (operation_isGrouped (fits _ rfl joined) grouped rightRead rightGrouped inner_eq) mixed
      (operation_fits outer_eq)
    rw [Tokens.drop_drop] at next
    have ahead : 2 * (inner.length + 1) + 2 * (outer.takeWhile (joins least allowIn)).length =
        2 * (((op, name) :: (inner ++ outer)).takeWhile (joins least allowIn)).length := by
      have := congrArg List.length taken
      simp only [List.length_append, List.length_cons] at this
      omega
    rwa [ahead] at next

theorem climbs : ∀ links : List Link, Climbs links
  | [] => climbs_nil
  | _ :: _ => climbs_cons fun more _ => climbs more
termination_by links => links.length
decreasing_by exact Nat.lt_succ_of_le ‹_›

/-! ## Whole chains -/

/-- A chain has `??` together with `||` or `&&`. -/
def Mixes (links : List Link) : Prop :=
  (∃ link ∈ links, link.1 = .nullish) ∧ ∃ link ∈ links, link.1 = .or ∨ link.1 = .and

/-- The links that are read: all of them, or those in front of the first `in`. -/
def readLinks (allowIn : Bool) (links : List Link) : List Link :=
  if allowIn then links else links.takeWhile (·.1 ≠ .isIn)

theorem mixed_iff_mixes : (Logicals.ofLinks links).mixed = true ↔ Mixes links := by
  simp [Logicals.mixed, Logicals.ofLinks, Mixes]

/-- Every operator of the language goes on with a chain, up to the first `in`. -/
theorem takeWhile_joins_one (known : ∀ link ∈ links, link.1 ∈ BinaryOperator.all) :
    links.takeWhile (joins 1 allowIn) = readLinks allowIn links := by
  have positive : ∀ op ∈ BinaryOperator.all, 1 ≤ op.precedence := by decide
  have each : ∀ link ∈ links, joins 1 allowIn link = (link.1 != .isIn || allowIn) :=
    fun link member => by rw [joins, decide_eq_true (positive _ (known link member)), Bool.true_and]
  induction links with
  | nil => cases allowIn <;> rfl
  | cons link links ih =>
    have tail := ih (fun other member => known other (List.mem_cons_of_mem _ member))
      fun other member => each other (List.mem_cons_of_mem _ member)
    have head := each link List.mem_cons_self
    cases allowIn <;> simp_all [readLinks, List.takeWhile_cons]

/-- A chain of names and operators is read as its one grouped tree, up to the first `in` where that
is no operator; but reading it fails if `??` is mixed with `||` or `&&` there. -/
theorem binary_chain (known : ∀ link ∈ links, link.1 ∈ BinaryOperator.all)
    (spelled : s.lexemes = .identifier first :: (linkLexemes links ++ rest))
    (stop : ∀ x, rest.head? = some x → x.hold ≤ 3) (deep : 2 * links.length + 5 ≤ d) :
    ((∃ place, binary d 1 allowIn s = .error (.syntactic place .mixedNullish)) ↔
      Mixes (readLinks allowIn links)) ∧
    (¬ Mixes (readLinks allowIn links) → ∃ e logicals,
      binary d 1 allowIn s =
        .ok ((e, logicals), s.drop (2 * (readLinks allowIn links).length + 1)) ∧
      e.inOrder? = some (first, readLinks allowIn links) ∧ e.isGrouped = true ∧
      ∀ e' : Expression Text, e'.inOrder? = some (first, readLinks allowIn links) →
        e'.isGrouped = true → e' = e) := by
  have written : ∀ op ∈ BinaryOperator.all,
      BinaryOperator.ofLexeme? op.lexeme = some op := by decide
  have spells : Spells s.advance links rest :=
    ⟨Tokens.advance_of_lexemes spelled, fun link member => written _ (known link member), stop⟩
  have reads : ReadsAs (binary d 1 allowIn s) first (links.takeWhile (joins 1 allowIn)) _ :=
    (climbs links).binary (Tokens.current?_of_lexemes spelled) spells deep Nat.one_pos
  rw [takeWhile_joins_one known] at reads
  rw [← mixed_iff_mixes]
  constructor
  · refine ⟨fun ⟨place, failed⟩ => ?_, reads.error⟩
    by_contra unmixed
    obtain ⟨e, value, -⟩ := reads.ok (Bool.not_eq_true _ ▸ unmixed)
    rw [failed] at value
    cases value
  · intro unmixed
    obtain ⟨e, value, read, grouped⟩ := reads.ok (Bool.not_eq_true _ ▸ unmixed)
    exact ⟨e, _, value, read, grouped, fun e' read' grouped' =>
      Expression.isGrouped_unique read' grouped' read grouped⟩

/-- The links of `a - b ** c ** d in e ?? f || g`. -/
def mingledLinks : List Link :=
  [(.subtract, "b"), (.power, "c"), (.power, "d"), (.isIn, "e"), (.nullish, "f"), (.or, "g")]

/-- The tokens of that chain and a semicolon. -/
def mingledTokens : Tokens :=
  ⟨(.identifier "a" :: (linkLexemes mingledLinks ++ [.punctuator .semicolon])).map
    (Token.mk · ⟨⟨1, 1⟩, false⟩), ⟨⟨1, 1⟩, false⟩⟩

theorem mingledTokens_chain :
    (∃ place, binary 17 1 true mingledTokens = .error (.syntactic place .mixedNullish)) ∧
    ∃ logicals, binary 17 1 false mingledTokens =
      .ok ((.binary .subtract (.identifier "a") (.binary .power (.identifier "b")
        (.binary .power (.identifier "c") (.identifier "d"))), logicals),
          mingledTokens.drop 7) := by
  have known : ∀ link ∈ mingledLinks, link.1 ∈ BinaryOperator.all := by decide
  have stop : ∀ x, [Lexeme.punctuator .semicolon].head? = some x → x.hold ≤ 3 := by
    rintro x ⟨⟩
    decide
  have spelled : mingledTokens.lexemes =
    .identifier "a" :: (linkLexemes mingledLinks ++ [.punctuator .semicolon]) := rfl
  have chain := fun allowIn => @binary_chain 17 allowIn _ _ _ _ known spelled stop (by decide)
  refine ⟨(chain true).1.mpr (mixed_iff_mixes.mp (by decide)), ?_⟩
  obtain ⟨e, logicals, value, -, -, only⟩ := (chain false).2 (mixed_iff_mixes.not.mp (by decide))
  rw [only (.binary .subtract (.identifier "a") (.binary .power (.identifier "b")
    (.binary .power (.identifier "c") (.identifier "d")))) (by decide) (by decide)]
  exact ⟨logicals, value⟩

end Grammar

end LibraryDescriptor
