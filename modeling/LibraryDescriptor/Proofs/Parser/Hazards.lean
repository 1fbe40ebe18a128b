import LibraryDescriptor.Parser.Grammar

/-!
# Hazards

Two constructs are told apart by what the parser meets first: a brace behind an arrow opens a block,
and an `in` in front of the first semicolon of a loop head belongs to a loop over keys. A hazard is
a place where one of the two is met, a brace behind an arrow or the head of a counting loop whose
first clause shows an `in`. The parser accepts the second kind nowhere.

* `Clause`, `Clause.isOpen` — whether a first clause shows an `in` outside brackets and conditional
  expressions.
* `hazards` — the number of hazards of a sequence of tokens.
* `Span`, `Flat`, `Closes` — what a part of a sequence adds to the hazards of the whole.
-/

namespace LibraryDescriptor

def Lexeme.opens : Lexeme → Bool
  | .punctuator .parenOpen | .punctuator .bracketOpen | .punctuator .braceOpen => true
  | _ => false

def Lexeme.closes : Lexeme → Bool
  | .punctuator .parenClose | .punctuator .bracketClose | .punctuator .braceClose => true
  | _ => false

/-- Whether a token neither is part of a hazard nor matters for a first clause. -/
def Lexeme.isPlain : Lexeme → Bool
  | .punctuator mark =>
    !(Lexeme.punctuator mark).opens && !(Lexeme.punctuator mark).closes &&
      !(mark matches .dot | .semicolon | .question | .colon | .arrow)
  | .keyword word => !(word matches .in | .for)
  | _ => true

/-- Whether a token neither is a bracket nor part of a hazard. -/
def Lexeme.isInert (x : Lexeme) : Bool :=
  !x.opens && !x.closes && !(x matches .punctuator .dot | .punctuator .arrow)

theorem Lexeme.not_bracket_of_isInert {x : Lexeme} (inert : x.isInert = true) :
    x.opens = false ∧ x.closes = false := by
  simp only [isInert, Bool.and_eq_true, Bool.not_eq_true'] at inert
  exact inert.1

/-- A place in a first clause: behind how many open brackets and, outside them, behind how many open
question marks it lies, and whether an `in` was shown in front of it. -/
structure Clause where
  depth : Nat
  choices : Nat
  shown : Bool

namespace Clause

def start : Clause := ⟨0, 0, false⟩

/-- The place behind a token, or the answer if the clause ends there. -/
def step (c : Clause) (x : Lexeme) : Clause ⊕ Bool :=
  if x.opens then .inl { c with depth := c.depth + 1 }
  else if x.closes then
    if c.depth = 0 then .inr false else .inl { c with depth := c.depth - 1 }
  else if c.depth = 0 then
    match x with
    | .punctuator .semicolon => .inr c.shown
    | .punctuator .question => .inl { c with choices := c.choices + 1 }
    | .punctuator .colon => .inl { c with choices := c.choices - 1 }
    | .keyword .in => .inl { c with shown := c.shown || c.choices == 0 }
    | _ => .inl c
  else .inl c

/-- Whether a clause is ended by a semicolon and shows an `in`. The name behind a point is no
operator. -/
def isOpen : Clause → List Lexeme → Bool
  | _, [] => false
  | c, .punctuator .dot :: _ :: rest => isOpen c rest
  | c, x :: rest =>
    match c.step x with
    | .inl c => isOpen c rest
    | .inr answer => answer

def deeper (c : Clause) : Clause := { c with depth := c.depth + 1 }

def see (c : Clause) (shown : Bool) : Clause :=
  if c.depth = 0 ∧ c.choices = 0 then { c with shown := c.shown || shown } else c

@[simp] theorem see_false (c : Clause) : c.see false = c := by
  unfold see
  split <;> simp

@[simp] theorem see_see (c : Clause) (a b : Bool) : (c.see a).see b = c.see (a || b) := by
  unfold see
  split <;> simp_all [Bool.or_assoc]

@[simp] theorem see_deeper (c : Clause) (shown : Bool) : c.deeper.see shown = c.deeper := by
  simp [see, deeper]

variable (c : Clause) {x : Lexeme}

theorem step_opens (opens : x.opens = true) : c.step x = .inl c.deeper := if_pos opens

theorem deeper_depth_ne_zero : c.deeper.depth ≠ 0 := Nat.succ_ne_zero _

theorem opens_of_closes (closes : x.closes = true) : x.opens = false := by
  unfold Lexeme.closes at closes
  split at closes <;> first | rfl | cases closes

theorem step_closes (closes : x.closes = true) : c.deeper.step x = .inl c := by
  unfold step
  rw [opens_of_closes closes, if_neg Bool.false_ne_true, if_pos closes,
    if_neg c.deeper_depth_ne_zero]
  rfl

theorem step_deeper (opens : x.opens = false) (closes : x.closes = false) :
    c.deeper.step x = .inl c.deeper := by
  unfold step
  rw [opens, closes, if_neg Bool.false_ne_true, if_neg Bool.false_ne_true,
    if_neg c.deeper_depth_ne_zero]

theorem step_plain (plain : x.isPlain = true) : c.step x = .inl c := by
  unfold step
  split
  · next opens => cases x <;> simp_all [Lexeme.isPlain, Lexeme.opens]
  split
  · next closes => cases x <;> simp_all [Lexeme.isPlain, Lexeme.closes]
  split
  · split <;> first | rfl | cases plain
  · rfl

end Clause

def isHazard (x : Lexeme) (rest : List Lexeme) : Bool :=
  match x, rest with
  | .punctuator .arrow, .punctuator .braceOpen :: _ => true
  | .keyword .for, .punctuator .parenOpen :: clause => Clause.start.isOpen clause
  | _, _ => false

def hazards : List Lexeme → Nat
  | [] => 0
  | .punctuator .dot :: _ :: rest => hazards rest
  | x :: rest => (isHazard x rest).toNat + hazards rest

section Token

variable {x : Lexeme} {rest : List Lexeme}

theorem Clause.isOpen_of_step {c c' : Clause} (step : c.step x = .inl c')
    (other : x ≠ .punctuator .dot) : c.isOpen (x :: rest) = c'.isOpen rest :=
  (isOpen.eq_3 _ _ _ fun _ _ dot _ => other dot).trans (by rw [step])

theorem hazards_cons (other : x ≠ .punctuator .dot) :
    hazards (x :: rest) = (isHazard x rest).toNat + hazards rest :=
  hazards.eq_3 _ _ fun _ _ dot _ => other dot

theorem isHazard_eq_false (arrow : x ≠ .punctuator .arrow) (loop : x ≠ .keyword .for) :
    isHazard x rest = false := by
  unfold isHazard
  split
  · exact absurd rfl arrow
  · exact absurd rfl loop
  · rfl

theorem isHazard_arrow_brace (brace : rest.head? = some (.punctuator .braceOpen)) :
    isHazard (.punctuator .arrow) rest = true := by
  obtain ⟨_, rfl⟩ := List.head?_eq_some_iff.mp brace
  rfl

theorem isHazard_arrow (other : rest.head? ≠ some (.punctuator .braceOpen)) :
    isHazard (.punctuator .arrow) rest = false := by
  unfold isHazard
  split
  · exact absurd rfl other
  · next word => cases word
  · rfl

/-- A reserved word is a hazard only in front of a clause that is open. -/
theorem isHazard_keyword {word : Keyword}
    (closed : ∀ clause, rest = .punctuator .parenOpen :: clause →
      Clause.start.isOpen clause = false) :
    isHazard (.keyword word) rest = false := by
  unfold isHazard
  split
  · next mark => cases mark
  · next clause _ => exact closed clause rfl
  · rfl

end Token

/-! ## Parts of a sequence -/

/-- A part in front of others that has some hazards and lies inside brackets as a whole. -/
structure Span (xs rest : List Lexeme) (n : Nat) : Prop where
  count : hazards xs = n + hazards rest
  deep : ∀ c : Clause, c.deeper.isOpen xs = c.deeper.isOpen rest

/-- A part of a first clause in front of others; `shown` tells whether it shows an `in`. -/
structure Flat (xs rest : List Lexeme) (n : Nat) (shown : Bool) : Prop where
  count : hazards xs = n + hazards rest
  flat : ∀ c : Clause, c.isOpen xs = (c.see shown).isOpen rest

/-- A part in front of others up to the bracket that closes it. -/
structure Closes (xs rest : List Lexeme) (n : Nat) : Prop where
  count : hazards xs = n + hazards rest
  closes : ∀ c : Clause, c.deeper.isOpen xs = c.isOpen rest

section Parts

variable {xs ys zs rest : List Lexeme} {m n : Nat} {a b : Bool} {x : Lexeme}

theorem Flat.span (flat : Flat xs ys n a) : Span xs ys n :=
  ⟨flat.count, fun c => by rw [flat.flat, Clause.see_deeper]⟩

theorem Span.refl : Span xs xs 0 := ⟨(Nat.zero_add _).symm, fun _ => rfl⟩

theorem Span.trans (first : Span xs ys m) (second : Span ys zs n) : Span xs zs (m + n) :=
  ⟨by rw [first.count, second.count, Nat.add_assoc], fun c => by rw [first.deep, second.deep]⟩

theorem Span.closes (first : Span xs ys m) (second : Closes ys zs n) : Closes xs zs (m + n) :=
  ⟨by rw [first.count, second.count, Nat.add_assoc],
    fun c => by rw [first.deep, second.closes]⟩

theorem Flat.refl : Flat xs xs 0 false :=
  ⟨(Nat.zero_add _).symm, fun c => by rw [Clause.see_false]⟩

theorem Flat.trans (first : Flat xs ys m a) (second : Flat ys zs n b) :
    Flat xs zs (m + n) (a || b) :=
  ⟨by rw [first.count, second.count, Nat.add_assoc],
    fun c => by rw [first.flat, second.flat, Clause.see_see]⟩

/-- A token that closes a bracket. -/
theorem Closes.close (front : xs = x :: rest) (closes : x.closes = true) : Closes xs rest 0 := by
  subst front
  have other : x ≠ .punctuator .dot := by rintro rfl; cases closes
  have safe : isHazard x rest = false :=
    isHazard_eq_false (by rintro rfl; cases closes) (by rintro rfl; cases closes)
  refine ⟨?_, fun c => Clause.isOpen_of_step (c.step_closes closes) other⟩
  rw [hazards_cons other, safe]
  rfl

/-- A bracket with what is in it. -/
theorem Closes.flat (front : xs = x :: ys) (opens : x.opens = true) (inside : Closes ys rest n) :
    Flat xs rest n false := by
  subst front
  have other : x ≠ .punctuator .dot := by rintro rfl; cases opens
  have safe : isHazard x ys = false :=
    isHazard_eq_false (by rintro rfl; cases opens) (by rintro rfl; cases opens)
  refine ⟨?_, fun c => ?_⟩
  · rw [hazards_cons other, safe, inside.count]
    exact Nat.zero_add _
  · rw [Clause.isOpen_of_step (c.step_opens opens) other, inside.closes, Clause.see_false]

/-- A token inside brackets. -/
theorem Span.skip (front : xs = x :: ys) (inert : x.isInert = true) (safe : isHazard x ys = false)
    (later : Span ys zs n) : Span xs zs n := by
  subst front
  have other : x ≠ .punctuator .dot := by rintro rfl; cases inert
  obtain ⟨opens, closes⟩ := Lexeme.not_bracket_of_isInert inert
  refine ⟨?_, fun c => ?_⟩
  · rw [hazards_cons other, safe, later.count]
    exact Nat.zero_add _
  · rw [Clause.isOpen_of_step (c.step_deeper opens closes) other, later.deep]

theorem Closes.skip (front : xs = x :: ys) (inert : x.isInert = true)
    (safe : isHazard x ys = false) (later : Closes ys zs n) : Closes xs zs n := by
  have whole := (Span.refl.skip front inert safe).closes later
  rwa [Nat.zero_add] at whole

/-- A token of a first clause that does not end it. -/
theorem Flat.token (front : xs = x :: rest) (other : x ≠ .punctuator .dot)
    (step : ∀ c, Clause.step c x = .inl (c.see a)) : Flat xs rest (isHazard x rest).toNat a := by
  subst front
  exact ⟨hazards_cons other, fun c => Clause.isOpen_of_step (step c) other⟩

/-- A token that neither is part of a hazard nor matters for a first clause. -/
theorem Flat.skip (front : xs = x :: ys) (plain : x.isPlain = true) (later : Flat ys zs n a) :
    Flat xs zs n a := by
  have safe : isHazard x ys = false :=
    isHazard_eq_false (by rintro rfl; cases plain) (by rintro rfl; cases plain)
  have token : Flat xs ys (isHazard x ys).toNat false :=
    .token front (by rintro rfl; cases plain) fun c => by rw [c.step_plain plain, Clause.see_false]
  have whole := token.trans later
  rwa [safe, Bool.toNat_false, Nat.zero_add, Bool.false_or] at whole

theorem Flat.dotted (front : xs = .punctuator .dot :: x :: rest) : Flat xs rest 0 false := by
  subst front
  exact ⟨(Nat.zero_add _).symm, fun c => by rw [Clause.see_false]; rfl⟩

theorem Flat.isIn (front : xs = .keyword .in :: rest) : Flat xs rest 0 true :=
  .token front nofun fun ⟨depth, choices, shown⟩ => by
    cases depth <;> cases choices <;> simp [Clause.step, Clause.see, Lexeme.opens, Lexeme.closes]

theorem Flat.arrow (front : xs = .punctuator .arrow :: rest) :
    Flat xs rest (isHazard (.punctuator .arrow) rest).toNat false :=
  .token front nofun fun c => by
    rw [Clause.see_false]
    unfold Clause.step
    rw [if_neg nofun, if_neg nofun]
    split <;> rfl

/-- What stands between a question mark and its colon does not show. -/
theorem Flat.choice (front : xs = .punctuator .question :: ys)
    (inside : Flat ys zs n a) (behind : zs = .punctuator .colon :: rest) :
    Flat xs rest n false := by
  subst front behind
  have question : hazards (.punctuator .question :: ys) = 0 + hazards ys := hazards_cons nofun
  have colon : hazards (.punctuator .colon :: rest) = 0 + hazards rest := hazards_cons nofun
  refine ⟨by rw [question, inside.count, colon, Nat.zero_add, Nat.zero_add], fun c => ?_⟩
  rw [Clause.see_false]
  by_cases outside : c.depth = 0
  -- Outside brackets the part lies behind one more question mark, where nothing shows.
  · let inner : Clause := { c with choices := c.choices + 1 }
    have step : c.step (.punctuator .question) = .inl inner := by
      unfold Clause.step
      rw [if_neg nofun, if_neg nofun, if_pos outside]
    have back : inner.step (.punctuator .colon) = .inl c := by
      unfold Clause.step
      rw [if_neg nofun, if_neg nofun, if_pos outside]
      rfl
    have hidden : inner.see a = inner := if_neg fun both => Nat.succ_ne_zero _ both.2
    rw [Clause.isOpen_of_step step nofun, inside.flat, hidden, Clause.isOpen_of_step back nofun]
  · have stays (mark : Punctuator) (opens : (Lexeme.punctuator mark).opens = false)
        (closes : (Lexeme.punctuator mark).closes = false) :
        c.step (.punctuator mark) = .inl c := by
      unfold Clause.step
      rw [opens, closes, if_neg nofun, if_neg nofun, if_neg outside]
    have hidden : c.see a = c := if_neg fun both => outside both.1
    rw [Clause.isOpen_of_step (stays .question rfl rfl) nofun, inside.flat, hidden,
      Clause.isOpen_of_step (stays .colon rfl rfl) nofun]

/-! ### Loop heads -/

theorem Clause.see_depth (c : Clause) (shown : Bool) : (c.see shown).depth = c.depth := by
  unfold see
  split <;> rfl

/-- A clause that a bracket closes is not ended by a semicolon. -/
theorem Flat.isOpen_close (inside : Flat xs (x :: rest) n a) (closes : x.closes = true) :
    Clause.start.isOpen xs = false := by
  have other : x ≠ .punctuator .dot := by rintro rfl; cases closes
  have step : (Clause.start.see a).step x = .inr false := by
    unfold Clause.step
    rw [Clause.opens_of_closes closes, if_neg Bool.false_ne_true, if_pos closes, Clause.see_depth]
    rfl
  rw [inside.flat, Clause.isOpen.eq_3 _ _ _ fun _ _ dot _ => other dot, step]

/-- A clause that a semicolon ends. -/
theorem Flat.isOpen_semicolon (inside : Flat xs (.punctuator .semicolon :: rest) n a) :
    Clause.start.isOpen xs = a := by
  rw [inside.flat]
  cases a <;> rfl

/-- The head of a loop. -/
theorem Closes.loop (front : xs = .keyword .for :: .punctuator .parenOpen :: ys)
    (inside : Closes ys rest n) : Span xs rest ((Clause.start.isOpen ys).toNat + n) := by
  subst front
  have head : Span (.punctuator .parenOpen :: ys) rest n := (inside.flat rfl rfl).span
  refine ⟨?_, fun c => ?_⟩
  · rw [Nat.add_assoc, ← head.count]
    exact hazards_cons nofun
  · have step : c.deeper.step (.keyword .for) = .inl c.deeper := c.step_deeper rfl rfl
    rw [Clause.isOpen_of_step step nofun, head.deep]

/-! ### Parts with and without the operator -/

/-- A part of a first clause that shows an `in` only where that is allowed. -/
def Part (allowIn : Bool) (xs rest : List Lexeme) (n : Nat) : Prop :=
  ∃ shown, Flat xs rest n shown ∧ (shown = true → allowIn = true)

variable {allowIn : Bool}

theorem Flat.part (flat : Flat xs rest n false) : Part allowIn xs rest n := ⟨false, flat, nofun⟩

theorem Part.flat (part : Part false xs rest n) : Flat xs rest n false := by
  obtain ⟨shown, flat, allowed⟩ := part
  cases shown with
  | false => exact flat
  | true => cases allowed rfl

theorem Part.span (part : Part allowIn xs rest n) : Span xs rest n :=
  let ⟨_, flat, _⟩ := part
  flat.span

theorem Part.trans (first : Part allowIn xs ys m) (second : Part allowIn ys zs n) :
    Part allowIn xs zs (m + n) := by
  obtain ⟨a, first, inFirst⟩ := first
  obtain ⟨b, second, inSecond⟩ := second
  exact ⟨a || b, first.trans second,
    fun shown => ((Bool.or_eq_true _ _).mp shown).elim inFirst inSecond⟩

theorem Part.skip (front : xs = x :: ys) (plain : x.isPlain = true) (later : Part allowIn ys zs n) :
    Part allowIn xs zs n :=
  let ⟨shown, flat, allowed⟩ := later
  ⟨shown, flat.skip front plain, allowed⟩

end Parts

end LibraryDescriptor
