import LibraryDescriptor.Proofs.Token.Lexeme

/-!
# The division of a text

Scanning divides a text into lexemes and the gaps in front of them: no code point is lost, and none
belongs to two of them.

* `Position.walk` — the place behind a part of a text.
* `Gap.Fills` and `Gap.exists_skips` — what can stand between two tokens, and what is skipped there.
* `StringLiteral.Stepped` and `StringLiteral.scan_cons` — one step of a reader of a literal.
* `Lexeme.Spelled` and `Scanner.exists_takes` — what a lexeme takes off the front of a text.
* `Slice`, `Tokens.Divide`, `Scanner.exists_division` — a text in slices, one for each token.
* `scan_divides` — every text that can be scanned is divided so.
-/

namespace LibraryDescriptor

/-! ## Line ends and places -/

def Text.breaks (t : Text) : Bool := t.any (·.has isLineTerminator)

@[simp] theorem Text.breaks_nil : Text.breaks [] = false := rfl

@[simp] theorem Text.breaks_cons (p : CodePoint) (t : Text) :
    Text.breaks (p :: t) = (p.has isLineTerminator || t.breaks) := rfl

@[simp] theorem Text.breaks_append (s t : Text) : (s ++ t).breaks = (s.breaks || t.breaks) :=
  List.any_append

theorem CodePoint.eq_of_is {p : CodePoint} {c : Char} (same : p.is c = true) : p = .scalar c := by
  cases p with
  | surrogate => cases same
  | scalar d => simpa [CodePoint.is] using same

/-- A property that no line terminator has keeps line ends out. -/
theorem CodePoint.not_isLineTerminator {property : Char → Bool} {p : CodePoint}
    (holds : p.has property = true)
    (none : ['\n', '\r', '\u2028', '\u2029'].any property = false) :
    p.has isLineTerminator = false := by
  cases p with
  | surrogate => rfl
  | scalar c =>
    rw [Bool.eq_false_iff]
    intro ends
    simp only [CodePoint.has, isLineTerminator, Bool.or_eq_true, beq_iff_eq] at ends
    have lacks : property c = false := by
      simp only [List.any_cons, Bool.or_eq_false_iff] at none
      rcases ends with ((rfl | rfl) | rfl) | rfl
      · exact none.1
      · exact none.2.1
      · exact none.2.2.1
      · exact none.2.2.2.1
    exact Bool.false_ne_true (lacks.symm.trans holds)

theorem Text.breaks_eq_false {property : Char → Bool} {t : Text}
    (all : ∀ p ∈ t, p.has property = true)
    (none : ['\n', '\r', '\u2028', '\u2029'].any property = false) : t.breaks = false :=
  List.any_eq_false.mpr fun p member => by simp [CodePoint.not_isLineTerminator (all p member) none]

def Position.walk : Position → Text → Text → Position
  | place, [], _ => place
  | place, p :: front, rest => walk (place.step p (front ++ rest)) front rest

theorem Position.walk_append (place : Position) (front more rest : Text) :
    place.walk (front ++ more) rest = (place.walk front (more ++ rest)).walk more rest := by
  induction front generalizing place with
  | nil => rfl
  | cons p front ih => rw [List.cons_append, walk, walk, ih, List.append_assoc]

/-- Code points that end no line only move the column. -/
theorem Position.walk_unbroken {front : Text} (unbroken : front.breaks = false) (place : Position)
    (rest : Text) : place.walk front rest = place.advance front.length := by
  induction front generalizing place with
  | nil => rfl
  | cons p front ih =>
    rw [Text.breaks_cons, Bool.or_eq_false_iff] at unbroken
    rw [walk, ih unbroken.2, step, unbroken.1]
    simp [advance, Nat.add_comm, Nat.add_left_comm]

/-! ## Gaps -/

namespace Gap

/-- What can stand in front of a token, or behind the last one: blanks, byte order marks, line ends
and whole comments. A comment that ends with its line reaches up to the line end; only behind the
last token can the text end instead. -/
inductive Fills (atEnd : Bool) : Text → Prop where
  | nil : Fills atEnd []
  | blank {p : CodePoint} {rest : Text} (blank : p.has isGapChar = true)
      (later : Fills atEnd rest) :
    Fills atEnd (p :: rest)
  | line {body rest : Text} (unbroken : body.breaks = false)
    (ended : rest.headHas isLineTerminator = true ∨ atEnd = true ∧ rest = [])
    (later : Fills atEnd rest) : Fills atEnd (.scalar '/' :: .scalar '/' :: (body ++ rest))
  | block {body rest : Text}
    (inside : ¬ [.scalar '*', .scalar '/'] <:+: body ++ [CodePoint.scalar '*'])
    (later : Fills atEnd rest) :
    Fills atEnd (.scalar '/' :: .scalar '*' :: (body ++ .scalar '*' :: .scalar '/' :: rest))

/-- What is left of a gap inside a block comment. -/
def Closes (atEnd : Bool) (t : Text) : Prop :=
  ∃ body rest, t = body ++ .scalar '*' :: .scalar '/' :: rest ∧
    ¬ [.scalar '*', .scalar '/'] <:+: body ++ [CodePoint.scalar '*'] ∧ Fills atEnd rest

/-- What is left of a gap, by what its reader is in the middle of. -/
def State.Reads (atEnd : Bool) : State → Text → Prop
  | .blank, t => Fills atEnd t
  | .line, t => ∃ body rest, t = body ++ rest ∧ body.breaks = false ∧
    (rest.headHas isLineTerminator = true ∨ atEnd = true ∧ rest = []) ∧ Fills atEnd rest
  | .opening _, t => ∃ rest, t = .scalar '*' :: rest ∧ Closes atEnd rest
  | .block _, t => Closes atEnd t
  | .closing, t => ∃ rest, t = .scalar '/' :: rest ∧ Fills atEnd rest

/-- The mark that a state has been entered for stands in front. -/
def State.Faces : State → Text → Prop
  | .opening _, t => t.headIs '*' = true
  | .closing, t => t.headIs '/' = true
  | _, _ => True

/-- A part of a text has been skipped, in a given state and at a given place. -/
structure Skips (state : State) (place : Position) (hasBreak : Bool) (t : Text) (gap : Skipped)
    (skipped : Text) : Prop where
  split : t = skipped ++ gap.rest
  walked : gap.position = place.walk skipped gap.rest
  broken : gap.hasBreak = (hasBreak || skipped.breaks)
  reads : state.Reads gap.rest.isEmpty skipped

variable {state state' : State} {place : Position} {hasBreak hasBreak' : Bool} {t : Text}
  {gap : Skipped} {p : CodePoint} {rest : Text}

theorem Skips.cons {skipped : Text}
    (later : Skips state' (place.step p rest) hasBreak' rest gap skipped)
    (broken : hasBreak' = (hasBreak || p.has isLineTerminator))
    (reads : state'.Reads gap.rest.isEmpty skipped → state.Reads gap.rest.isEmpty (p :: skipped)) :
    Skips state place hasBreak (p :: rest) gap (p :: skipped) where
  split := congrArg (p :: ·) later.split
  walked := by rw [later.walked, Position.walk, ← later.split]
  broken := by rw [later.broken, broken, Text.breaks_cons, Bool.or_assoc]
  reads := reads later.reads

theorem has_isGapChar_eq : p.has isGapChar = (p.has isLineTerminator || p.has isFiller) := by
  cases p <;> rfl

/-- The invariant of a reader of gaps: it has skipped what its state leaves to be read. -/
theorem exists_skips (skipped : skip state place hasBreak t = .ok gap) (faces : state.Faces t) :
    ∃ front, Skips state place hasBreak t gap front := by
  fun_induction skip state place hasBreak t with
  | case1 | case2 => cases skipped
  | case3 => cases skipped; exact ⟨[], rfl, rfl, by simp, .nil⟩
  | case4 =>
    cases skipped
    exact ⟨[], rfl, rfl, by simp, [], [], rfl, rfl, .inr ⟨rfl, rfl⟩, .nil⟩
  | case5 => cases faces
  | case6 place hasBreak p rest ends ih =>
    obtain ⟨front, later⟩ := ih skipped trivial
    exact ⟨_, later.cons (by simp [ends]) (.blank (by simp [has_isGapChar_eq, ends]))⟩
  | case7 place hasBreak p rest line filler ih =>
    obtain ⟨front, later⟩ := ih skipped trivial
    exact ⟨_, later.cons (by simp [line]) (.blank (by simp [has_isGapChar_eq, filler]))⟩
  | case8 place hasBreak p rest line filler slashes ih =>
    obtain ⟨front, later⟩ := ih skipped trivial
    rw [Bool.and_eq_true] at slashes
    obtain rfl := CodePoint.eq_of_is slashes.1
    refine ⟨_, later.cons (Bool.or_false _).symm ?_⟩
    rintro ⟨body, left, same, unbroken, ended, fills⟩
    have split := later.split
    subst same
    -- The second slash is no line end, so it belongs to the comment.
    cases body with
    | nil =>
      rcases ended with ends | ⟨atEnd, rfl⟩
      · cases left with
        | nil => cases ends
        | cons q left =>
          rw [split] at slashes
          rw [CodePoint.eq_of_is (p := q) slashes.2] at ends
          cases ends
      · rw [split, List.isEmpty_iff.mp atEnd] at slashes
        cases slashes.2
    | cons q body =>
      rw [split] at slashes
      rw [CodePoint.eq_of_is (p := q) slashes.2] at unbroken ⊢
      exact .line unbroken ended fills
  | case9 place hasBreak p rest line filler noLine opens ih =>
    rw [Bool.and_eq_true] at opens
    obtain ⟨front, later⟩ := ih skipped opens.2
    obtain rfl := CodePoint.eq_of_is opens.1
    refine ⟨_, later.cons (Bool.or_false _).symm ?_⟩
    rintro ⟨_, starts, body, left, same, inside, fills⟩
    rw [starts, same]
    exact .block inside fills
  | case10 place hasBreak p rest line filler noLine noBlock =>
    cases skipped
    exact ⟨[], rfl, rfl, by simp, .nil⟩
  | case11 place hasBreak p rest ends ih =>
    obtain ⟨front, later⟩ := ih skipped trivial
    exact ⟨_, later.cons (by simp [ends]) fun fills => ⟨[], _, rfl, rfl, .inl ends,
      .blank (by simp [has_isGapChar_eq, ends]) fills⟩⟩
  | case12 place hasBreak p rest line ih =>
    obtain ⟨front, later⟩ := ih skipped trivial
    refine ⟨_, later.cons (by simp [line]) ?_⟩
    rintro ⟨body, left, same, unbroken, ended⟩
    exact ⟨p :: body, left, by rw [same]; rfl, by simp [line, unbroken], ended⟩
  | case13 opened place hasBreak p rest ih =>
    obtain ⟨front, later⟩ := ih skipped trivial
    obtain rfl := CodePoint.eq_of_is faces
    exact ⟨_, later.cons (Bool.or_false _).symm fun closes => ⟨front, rfl, closes⟩⟩
  | case14 opened place hasBreak p rest closes ih =>
    rw [Bool.and_eq_true] at closes
    obtain ⟨front, later⟩ := ih skipped closes.2
    obtain rfl := CodePoint.eq_of_is closes.1
    refine ⟨_, later.cons (Bool.or_false _).symm ?_⟩
    rintro ⟨left, same, fills⟩
    exact ⟨[], left, by rw [same]; rfl, by decide, fills⟩
  | case15 opened place hasBreak p rest inside ih =>
    obtain ⟨front, later⟩ := ih skipped trivial
    refine ⟨_, later.cons rfl ?_⟩
    rintro ⟨body, left, same, free, fills⟩
    refine ⟨p :: body, left, by rw [same]; rfl, fun closed => ?_, fills⟩
    rw [List.cons_append, List.infix_cons_iff, List.cons_prefix_cons] at closed
    rcases closed with ⟨rfl, slash⟩ | closed
    · have split := later.split
      subst same
      refine inside ?_
      cases body with
      | nil => simp at slash
      | cons q body =>
        obtain rfl := (List.cons_prefix_cons.mp slash).1
        rw [split]
        rfl
    · exact free closed
  | case16 place hasBreak p rest ih =>
    obtain ⟨front, later⟩ := ih skipped trivial
    obtain rfl := CodePoint.eq_of_is faces
    exact ⟨_, later.cons (Bool.or_false _).symm fun fills => ⟨front, rfl, fills⟩⟩

end Gap

/-! ## String literals -/

/-- Whether a text holds an escape with braces whose number does not fit a signed 32-bit word. -/
def Text.HasFarEscape (t : Text) : Prop :=
  ∃ digits n, Text.ofString "\\u\x7b" ++ digits ++ [.scalar '\x7d'] <:+: t ∧
    Spelled.integer? 16 digits = some n ∧ (n < -0x80000000 ∨ 0x80000000 ≤ n)

namespace StringLiteral

/-- The part of an escape that has been read, as far as braces can come behind it. -/
def State.pending : State → Text
  | .plain | .lineFeed | .hex _ _ _ => []
  | .escape => "\\"
  | .unicode _ => "\\u"
  | .braced _ digits => Text.ofString "\\u\x7b" ++ digits.reverse

/-- What a reader of a literal at `place` makes of a code point: the literal ends, an escape is
refused, or the rest is read, which may complete a code point. -/
inductive Stepped (delimiter : Char) (opened place : Position) (state : State) (p : CodePoint)
    (rest : Text) : Except SourceError Scanned → Prop
  | done (closes : p = .scalar delimiter) :
    Stepped delimiter opened place state p rest (.ok ⟨[], place.step p rest, rest⟩)
  | fault {position : Position} {fault : LexicalFault} :
    Stepped delimiter opened place state p rest (.error (.lexical position fault))
  | far (far : Text.HasFarEscape (state.pending ++ [p])) :
    Stepped delimiter opened place state p rest (.error .escapeOutOfRange)
  | more {state' : State} {f : Scanned → Scanned}
      (pending : state'.pending <:+ state.pending ++ [p])
    (keeps : ∀ s, (f s).rest = s.rest ∧ (f s).position = s.position) :
    Stepped delimiter opened place state p rest
      ((scan delimiter opened state' (place.step p rest) rest).map f)

variable {delimiter : Char} {opened place : Position} {state : State}
  {p : CodePoint} {rest t : Text}

/-- The next state goes on, with or without a code point. -/
theorem Stepped.continue {state' : State} (value : Option CodePoint)
    (pending : state'.pending <:+ state.pending ++ [p]) :
    Stepped delimiter opened place state p rest (do
      let scanned ← scan delimiter opened state' (place.step p rest) rest
      .ok (value.elim scanned scanned.cons)) := by
  have mapped : (do
      let scanned ← scan delimiter opened state' (place.step p rest) rest
      .ok (value.elim scanned scanned.cons)) =
      (scan delimiter opened state' (place.step p rest) rest).map fun s => value.elim s s.cons := by
    cases scan delimiter opened state' (place.step p rest) rest <;> rfl
  rw [mapped]
  exact .more pending fun s => by cases value <;> exact ⟨rfl, rfl⟩

/-- The next state goes on as it is. -/
theorem Stepped.direct {state' : State} (pending : state'.pending <:+ state.pending ++ [p]) :
    Stepped delimiter opened place state p rest
      (scan delimiter opened state' (place.step p rest) rest) := by
  have mapped : (scan delimiter opened state' (place.step p rest) rest).map id =
      scan delimiter opened state' (place.step p rest) rest := congrFun Except.map_id _
  rw [← mapped]
  exact .more pending fun _ => ⟨rfl, rfl⟩

/-- An escape goes on only behind `u`. -/
theorem startEscape_cases (place : Position) (p : CodePoint) (rest : Text) :
    (∃ position fault, startEscape place p rest = .error (.lexical position fault)) ∨
      ∃ state value, startEscape place p rest = .ok (state, value) ∧
        state.pending <:+ State.escape.pending ++ [p] := by
  unfold startEscape
  cases p with
  | surrogate => exact .inr ⟨_, _, rfl, List.nil_suffix⟩
  | scalar c =>
    simp only
    split
    · exact .inl ⟨_, _, rfl⟩
    split
    · exact .inr ⟨_, _, rfl, List.nil_suffix⟩
    split
    · exact .inr ⟨_, _, rfl, List.nil_suffix⟩
    split
    · exact .inr ⟨_, _, rfl, List.nil_suffix⟩
    split
    · exact .inr ⟨_, _, rfl, List.nil_suffix⟩
    split
    · next letter =>
      subst letter
      exact .inr ⟨_, _, rfl, List.suffix_rfl⟩
    split
    · exact .inl ⟨_, _, rfl⟩
    · exact .inr ⟨_, _, rfl, List.nil_suffix⟩

theorem stepHex_cases (place : Position) (missing digits : Nat) (p : CodePoint) :
    (∃ position fault, stepHex place missing digits p = .error (.lexical position fault)) ∨
      ∃ state value, stepHex place missing digits p = .ok (state, value) ∧ state.pending = [] := by
  unfold stepHex
  split
  · exact .inl ⟨_, _, rfl⟩
  split
  · exact .inl ⟨_, _, rfl⟩
  split
  · exact .inr ⟨_, _, rfl, rfl⟩
  · exact .inr ⟨_, _, rfl, rfl⟩

theorem bracedPoint_cases (place : Position) (digits : Text) :
    (∃ position fault, bracedPoint place digits = .error (.lexical position fault)) ∨
      (bracedPoint place digits = .error .escapeOutOfRange ∧
        ∃ n, Spelled.integer? 16 digits = some n ∧ (n < -0x80000000 ∨ 0x80000000 ≤ n)) ∨
      ∃ value, bracedPoint place digits = .ok value := by
  unfold bracedPoint
  split
  · exact .inl ⟨_, _, rfl⟩
  · next n spelled =>
    by_cases far : n < -0x80000000 ∨ 0x80000000 ≤ n
    · rw [if_pos far]
      exact .inr (.inl ⟨rfl, n, spelled, far⟩)
    · rw [if_neg far]
      split
      · exact .inr (.inr ⟨_, rfl⟩)
      · exact .inl ⟨_, _, rfl⟩

theorem stepped_hex {start : Position} {missing digits : Nat} :
    Stepped delimiter opened place state p rest (do
      let (state', value) ← stepHex start missing digits p
      let scanned ← scan delimiter opened state' (place.step p rest) rest
      .ok (value.elim scanned scanned.cons)) := by
  obtain ⟨position, fault, failed⟩ | ⟨state', value, stepped, empty⟩ :=
    stepHex_cases start missing digits p
  · rw [failed]
    exact .fault
  · rw [stepped]
    exact .continue value (empty ▸ List.nil_suffix)

/-- One step of a reader of a literal. -/
theorem scan_cons : Stepped delimiter opened place state p rest
    (scan delimiter opened state place (p :: rest)) := by
  cases state with
  | plain =>
    rw [scan]
    split
    · next closes => exact .done (CodePoint.eq_of_is closes)
    split
    · exact .fault
    split
    · next backslash =>
      obtain rfl := CodePoint.eq_of_is backslash
      exact .direct List.suffix_rfl
    · exact .more List.nil_suffix fun _ => ⟨rfl, rfl⟩
  | escape =>
    rw [scan]
    obtain ⟨position, fault, failed⟩ | ⟨state', value, started, pending⟩ :=
      startEscape_cases place p rest
    · rw [failed]
      exact .fault
    · rw [started]
      exact .continue value pending
  | hex start missing digits =>
    rw [scan]
    exact stepped_hex
  | unicode start =>
    rw [scan]
    split
    · next brace =>
      obtain rfl := CodePoint.eq_of_is brace
      exact .direct List.suffix_rfl
    · exact stepped_hex
  | braced start digits =>
    rw [scan]
    split
    · next brace =>
      split
      · exact .fault
      obtain ⟨position, fault, failed⟩ | ⟨failed, n, far⟩ | ⟨value, read⟩ :=
        bracedPoint_cases start digits.reverse
      · rw [failed]
        exact .fault
      · rw [failed]
        refine .far ⟨digits.reverse, n, ?_, far⟩
        rw [CodePoint.eq_of_is brace]
        exact List.infix_rfl
      · rw [read]
        exact .continue (some value) List.nil_suffix
    · apply Stepped.direct
      simp [State.pending]
  | lineFeed =>
    rw [scan]
    exact .direct List.nil_suffix

/-- A literal that has been read ends with its delimiter. -/
theorem exists_body {scanned : Scanned}
    (found : scan delimiter opened state place t = .ok scanned) :
    ∃ body, t = body ++ .scalar delimiter :: scanned.rest ∧
      scanned.position = place.walk (body ++ [.scalar delimiter]) scanned.rest := by
  induction t generalizing state place scanned with
  | nil => cases state <;> cases found
  | cons p rest ih =>
    have stepped := @scan_cons delimiter opened place state p rest
    generalize scan delimiter opened state place (p :: rest) = result at stepped found
    cases stepped with
    | done closes =>
      cases found
      subst closes
      exact ⟨[], rfl, rfl⟩
    | fault | far => cases found
    | @more state' f pending keeps =>
      cases again : scan delimiter opened state' (place.step p rest) rest with
      | error e => rw [again] at found; cases found
      | ok literal =>
        rw [again] at found
        cases found
        obtain ⟨body, split, walked⟩ := ih again
        rw [(keeps literal).1, (keeps literal).2, walked]
        refine ⟨p :: body, congrArg (p :: ·) split, ?_⟩
        rw [List.cons_append, Position.walk, List.append_assoc, List.singleton_append, ← split]

end StringLiteral

/-! ## Numerals -/

namespace Numeral

variable {t part rest raw : Text}

theorem spanHas_split (property : Char → Bool) (t : Text) :
    (spanHas property t).1 ++ (spanHas property t).2 = t := List.takeWhile_append_dropWhile

theorem spanHas_breaks {p : Char → Bool} (t : Text)
    (none : ['\n', '\r', '\u2028', '\u2029'].any p = false) :
    (spanHas p t).1.breaks = false := Text.breaks_eq_false has_of_mem_spanHas none

theorem scanFraction_split (t : Text) :
    (scanFraction t).1 ++ (scanFraction t).2 = t ∧ (scanFraction t).1.breaks = false := by
  unfold scanFraction
  split
  · exact ⟨congrArg (_ :: ·) (spanHas_split isDigit _), spanHas_breaks _ (by decide)⟩
  · exact ⟨rfl, rfl⟩

theorem scanSign_split (t : Text) :
    (scanSign t).1 ++ (scanSign t).2 = t ∧ (scanSign t).1.breaks = false := by
  unfold scanSign
  split <;> exact ⟨rfl, rfl⟩

theorem scanExponent?_split (found : scanExponent? t = some (part, rest)) :
    part ++ rest = t ∧ part.breaks = false := by
  unfold scanExponent? at found
  split at found
  · next e after =>
    split at found
    · next letter =>
      simp only at found
      split at found
      · cases found
      · cases found
        obtain ⟨split, sign⟩ := scanSign_split after
        have digits := spanHas_breaks (p := isDigit) (scanSign after).2 (by decide)
        have unbroken : (CodePoint.scalar e).has isLineTerminator = false := by
          obtain rfl | rfl := letter <;> rfl
        constructor
        · rw [List.cons_append, List.cons_append, List.append_assoc, spanHas_split, split]
        · simp [unbroken, sign, digits]
    · cases found
      exact ⟨rfl, rfl⟩
  · cases found
    exact ⟨rfl, rfl⟩

theorem scanDecimal_split (found : scanDecimal t = .ok (raw, rest)) :
    raw ++ rest = t ∧ raw.breaks = false := by
  unfold scanDecimal at found
  simp only at found
  split at found
  · cases found
  · next exponent after read =>
    cases found
    obtain ⟨power, powerLine⟩ := scanExponent?_split read
    obtain ⟨point, pointLine⟩ := scanFraction_split (spanHas isDigit t).2
    have digits := spanHas_breaks (p := isDigit) t (by decide)
    constructor
    · rw [List.append_assoc, power, List.append_assoc, point, spanHas_split]
    · simp [powerLine, pointLine, digits]

theorem baseDigits?_unbroken {letter : Char} {base : Nat} {isBaseDigit : Char → Bool}
    (found : baseDigits? letter = some (base, isBaseDigit)) :
    isLineTerminator letter = false ∧
      ['\n', '\r', '\u2028', '\u2029'].any isBaseDigit = false := by
  unfold baseDigits? at found
  split at found <;> cases found <;> decide

/-- A literal and the text behind it make up the text, and no line ends in it. -/
theorem scanSpelling_split (found : scanSpelling t = .ok (raw, rest)) :
    raw ++ rest = t ∧ raw.breaks = false := by
  unfold scanSpelling at found
  split at found
  · next letter after =>
    split at found
    · next base isBaseDigit known =>
      simp only at found
      split at found
      · cases found
      · cases found
        obtain ⟨unbroken, none⟩ := baseDigits?_unbroken known
        constructor
        · rw [List.cons_append, List.cons_append, spanHas_split]
        · simp only [Text.breaks_cons, spanHas_breaks after none]
          exact Bool.or_eq_false_iff.mpr ⟨rfl, Bool.or_eq_false_iff.mpr ⟨unbroken, rfl⟩⟩
    · exact scanDecimal_split found
  · exact scanDecimal_split found

end Numeral

/-! ## Lexemes -/

/-- How a lexeme is written: a string between two quotes of the same kind, any other lexeme as its
value. -/
def Lexeme.Spelled (spelling : Text) : Lexeme → Prop
  | .string _ => ∃ quote body, (quote = '"' ∨ quote = '\'') ∧
    spelling = .scalar quote :: (body ++ [.scalar quote])
  | x => spelling = x.value

theorem Lexeme.spelled_read (name : Text) : (read (.identifier name)).Spelled name := by
  rw [read]
  split
  · next word found => exact (Keyword.spelling_of_ofText? found).symm
  · rfl

namespace Scanner

variable {place : Position} {p : CodePoint} {rest t : Text} {scanned : Scanned}

/-- A lexeme takes the code point `p` and some more off the front of a text. -/
structure Takes (place : Position) (p : CodePoint) (rest : Text) (scanned : Scanned) (more : Text) :
    Prop where
  split : rest = more ++ scanned.rest
  spelled : scanned.lexeme.Spelled (p :: more)
  walked : scanned.position = place.walk (p :: more) scanned.rest

/-- A lexeme that is written as its value, with no line end in it. -/
theorem Takes.of_value {x : Lexeme} {value after : Text} (split : value ++ after = p :: rest)
    (some : value ≠ []) (spelled : x.Spelled value) (unbroken : value.breaks = false) :
    ∃ more, Takes place p rest ⟨x, place.advance value.length, after⟩ more := by
  cases value with
  | nil => exact absurd rfl some
  | cons q more =>
    obtain ⟨rfl, same⟩ := List.cons.inj split
    exact ⟨more, same.symm, spelled, (Position.walk_unbroken unbroken place after).symm⟩

theorem exists_takes_string {quote : Char} (kind : quote = '"' ∨ quote = '\'')
    (starts : p.is quote = true) {literal : StringLiteral.Scanned}
    (read : StringLiteral.scan quote place .plain (place.step p rest) rest = .ok literal) :
    ∃ more, Takes place p rest ⟨.string literal.value, literal.position, literal.rest⟩ more := by
  obtain rfl := CodePoint.eq_of_is starts
  obtain ⟨body, split, walked⟩ := StringLiteral.exists_body read
  refine ⟨body ++ [.scalar quote], ?_, ⟨quote, body, kind, rfl⟩, ?_⟩
  · rw [split, List.append_assoc, List.singleton_append]
  · rw [walked, Position.walk, split, List.append_assoc, List.singleton_append]

set_option maxRecDepth 2000 in
theorem any_isIdentifierPart :
    ['\n', '\r', '\u2028', '\u2029'].any isIdentifierPart = false := by
  decide

theorem exists_takes_word (start : p.has isIdentifierStart = true) :
    ∃ more, Takes place p rest (scanWord place (p :: rest)) more := by
  have part : p.has isIdentifierPart = true := by
    cases p with
    | surrogate => cases start
    | scalar c =>
      simp only [CodePoint.has, isIdentifierStart, isIdentifierPart, Bool.or_eq_true] at start ⊢
      tauto
  refine Takes.of_value (Numeral.spanHas_split isIdentifierPart (p :: rest)) ?_
    (Lexeme.spelled_read _) (Numeral.spanHas_breaks (p :: rest) any_isIdentifierPart)
  simp [part]

theorem breaks_spelling (mark : Punctuator) : mark.spelling.breaks = false := by
  cases mark <;> rfl

theorem exists_takes_punctuator (found : scanPunctuator? place (p :: rest) = some scanned) :
    ∃ more, Takes place p rest scanned more := by
  obtain ⟨mark, first, rfl⟩ := Option.map_eq_some_iff.mp found
  have starts := List.find?_some first
  simp only [startsWithPunctuator, Bool.and_eq_true, Text.startsWith, List.isPrefixOf_iff_prefix,
    List.prefix_iff_eq_append] at starts
  refine Takes.of_value starts.1 ?_ rfl (breaks_spelling mark)
  obtain ⟨c, more, spelled, -⟩ := Punctuator.spelling_eq_cons mark
  simp [spelled]

theorem exists_takes_number {raw after : Text}
    (found : Numeral.scan place (p :: rest) = .ok (raw, after)) (valid : Numeral.IsSpelling raw) :
    ∃ more, Takes place p rest ⟨.number raw, place.advance raw.length, after⟩ more := by
  obtain ⟨q, more, same, -⟩ := valid.starts
  unfold Numeral.scan at found
  split at found
  · cases found
  · next spelled =>
    split at found
    · cases found
    · cases found
      obtain ⟨split, unbroken⟩ := Numeral.scanSpelling_split spelled
      exact Takes.of_value split (by simp [same]) rfl unbroken

/-- What a lexeme takes off the front of a text. -/
theorem exists_takes (solid : p.has Gap.isGapChar = false)
    (found : scanLexeme place p rest = .ok scanned) : ∃ more, Takes place p rest scanned more := by
  have valid := valid_of_scanLexeme solid found
  unfold scanLexeme at found
  split at found
  · next starts =>
    obtain ⟨literal, read, same⟩ := bind_eq_ok.mp found
    cases same
    exact exists_takes_string (.inl rfl) starts read
  split at found
  · next starts =>
    obtain ⟨literal, read, same⟩ := bind_eq_ok.mp found
    cases same
    exact exists_takes_string (.inr rfl) starts read
  split at found
  · obtain ⟨⟨raw, after⟩, number, same⟩ := bind_eq_ok.mp found
    cases same
    exact exists_takes_number number valid
  split at found
  · next start =>
    cases found
    exact exists_takes_word start
  split at found
  · cases found
  split at found
  · next punctuator =>
    cases found
    exact exists_takes_punctuator punctuator
  · cases found

end Scanner

/-! ## Slices -/

/-- A token with the text that it takes up: the gap in front of it, and how it is written. -/
structure Slice where
  gap : Text
  spelling : Text
  token : Token

namespace Slice

def texts (slices : List Slice) : Text := slices.flatMap fun s => s.gap ++ s.spelling

@[simp] theorem texts_nil : texts [] = [] := rfl

@[simp] theorem texts_cons (s : Slice) (slices : List Slice) :
    texts (s :: slices) = s.gap ++ (s.spelling ++ texts slices) := List.append_assoc ..

@[simp] theorem texts_append (left right : List Slice) :
    texts (left ++ right) = texts left ++ texts right := List.flatMap_append

/-- A slice has a gap and the spelling of its lexeme, which does not start like a gap. The mark
tells whether a line ends in the gap. -/
structure Stands (s : Slice) : Prop where
  gap : Gap.Fills false s.gap
  spelled : s.token.lexeme.Spelled s.spelling
  solid : ∃ p more, s.spelling = p :: more ∧ p.has Gap.isGapChar = false
  broken : s.token.mark.afterBreak = s.gap.breaks

end Slice

/-- A text is divided into the slices of its tokens and a gap behind the last one. -/
structure Tokens.Divide (tokens : Tokens) (t : Text) (slices : List Slice) (tail : Text) :
    Prop where
  listed : slices.map Slice.token = tokens.ahead
  text : t = Slice.texts slices ++ tail
  stands : ∀ s ∈ slices, s.Stands
  filled : Gap.Fills true tail
  broken : tokens.finish.afterBreak = tail.breaks

/-- The tokens from a place on divide the text, and each is marked with the place where it
starts. -/
theorem Scanner.exists_division {bound : Nat} {place : Position} {t : Text} {tokens : Tokens}
    (found : scanFrom bound place t = .ok tokens) :
    ∃ slices tail, tokens.Divide t slices tail ∧
      (∀ before s after, slices = before ++ s :: after →
        s.token.mark.position = place.walk (Slice.texts before ++ s.gap)
          (s.spelling ++ Slice.texts after ++ tail)) ∧
      tokens.finish.position = place.walk t [] := by
  induction bound generalizing place t tokens with
  | zero => cases found
  | succ bound ih =>
    rw [scanFrom] at found
    obtain ⟨gap, skipped, found⟩ := bind_eq_ok.mp found
    obtain ⟨front, skips⟩ := Gap.exists_skips skipped trivial
    have fills : Gap.Fills gap.rest.isEmpty front := skips.reads
    split at found
    · next finished =>
      cases found
      have split := skips.split
      rw [finished, List.append_nil] at split
      rw [finished] at fills
      have walked := skips.walked
      subst split
      rw [finished] at walked
      exact ⟨[], t, ⟨rfl, rfl, List.forall_mem_nil _, fills, skips.broken⟩, by simp, walked⟩
    · next p rest head =>
      obtain ⟨scanned, lexeme, found⟩ := bind_eq_ok.mp found
      obtain ⟨later, more, same⟩ := bind_eq_ok.mp found
      cases same
      have solid := Gap.head_of_skip skipped head
      obtain ⟨spelling, takes⟩ := exists_takes solid lexeme
      obtain ⟨slices, tail, divided, placed, finished⟩ := ih more
      have reached : scanned.position = place.walk (front ++ p :: spelling) scanned.rest := by
        rw [takes.walked, skips.walked, head, takes.split, Position.walk_append]
        rfl
      have whole : t = (front ++ p :: spelling) ++ scanned.rest := by
        rw [skips.split, head, takes.split, List.append_assoc]
        rfl
      refine ⟨⟨front, p :: spelling, ⟨scanned.lexeme, ⟨gap.position, gap.hasBreak⟩⟩⟩ :: slices,
        tail,
        ⟨congrArg (_ :: ·) divided.listed, ?_, ?_, divided.filled, divided.broken⟩, ?_, ?_⟩
      · rw [whole, divided.text]
        simp
      · rw [head] at fills
        exact List.forall_mem_cons.mpr
          ⟨⟨fills, takes.spelled, ⟨p, spelling, rfl, solid⟩, skips.broken⟩, divided.stands⟩
      · intro before s after same
        cases before with
        | nil =>
          obtain ⟨rfl, rfl⟩ := List.cons.inj same
          rw [skips.walked, head, takes.split, divided.text]
          simp
        | cons first before =>
          obtain ⟨rfl, rfl⟩ := List.cons.inj same
          have split : scanned.rest =
              (Slice.texts before ++ s.gap) ++ (s.spelling ++ Slice.texts after ++ tail) := by
            rw [divided.text]
            simp
          rw [placed before s after rfl, reached, split, ← Position.walk_append]
          simp
      · rw [finished, reached, whole, Position.walk_append place _ scanned.rest, List.append_nil]

/-- Every text that can be scanned is divided into the slices of its tokens. -/
theorem scan_divides {t : Text} {tokens : Tokens} (found : scan t = .ok tokens) :
    ∃ slices tail, tokens.Divide t slices tail := by
  obtain ⟨slices, tail, divided, -⟩ := Scanner.exists_division found
  exact ⟨slices, tail, divided⟩

/-- A source with line ends in a comment and in a literal, and with a comment up to its end. -/
def brokenSource : Text := "\ufeffa /*\r\n*/?.5:'b\\\r\nc'+\u2028\"d\"// e"

theorem brokenSource_divides :
    ∃ tokens, scan brokenSource = .ok tokens ∧
      tokens.ahead.map (·.lexeme.value) = ["a", "?", ".5", ":", "bc", "+", "d"].map Text.ofString ∧
      tokens.ahead.map (·.mark.afterBreak) = [false, true, false, false, false, false, true] ∧
      ∃ slices tail, tokens.Divide brokenSource slices tail := by
  have values : (scan brokenSource).toOption.map (fun tokens =>
      (tokens.ahead.map (·.lexeme.value), tokens.ahead.map (·.mark.afterBreak))) =
      some (["a", "?", ".5", ":", "bc", "+", "d"].map Text.ofString,
        [false, true, false, false, false, false, true]) := by
    decide +kernel
  cases found : scan brokenSource with
  | error e =>
    rw [found] at values
    cases values
  | ok tokens =>
    rw [found] at values
    obtain ⟨names, breaks⟩ := Prod.mk.inj (Option.some.inj values)
    exact ⟨tokens, rfl, names, breaks, scan_divides found⟩

end LibraryDescriptor
