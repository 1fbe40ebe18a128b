import LibraryDescriptor.Proofs.Token.Division

/-!
# How scanning fails

Scanning takes code points off the front of a text, at least one for each token, so the bound on the
number of tokens is never reached. It fails with a lexical fault, or at an escape with braces whose
number does not fit a signed 32-bit word.

* `Text.Refuses` — the ways in which scanning a text fails, and `refuses_of_scan`.
* `infix_of_scan` — a numeral that was scanned stands in the text.
* `Numeral.value?_eq_none` — the numerals that denote no number.
-/

namespace LibraryDescriptor

def Text.Refuses (t : Text) : SourceError → Prop
  | .lexical _ _ => True
  | .escapeOutOfRange => t.HasFarEscape
  | _ => False

theorem Text.Refuses.suffix {t t' : Text} {e : SourceError} (suffix : t' <:+ t)
    (refused : t'.Refuses e) : t.Refuses e := by
  cases e with
  | lexical => trivial
  | escapeOutOfRange =>
    obtain ⟨digits, n, inside, far⟩ := refused
    exact ⟨digits, n, inside.trans suffix.isInfix, far⟩
  | syntactic | unreadableNumber | exhausted => exact refused.elim

/-! ## Gaps -/

namespace Gap

variable {state : State} {place : Position} {hasBreak : Bool} {t : Text}

theorem refuses_of_skip {e : SourceError} (failed : skip state place hasBreak t = .error e) :
    t.Refuses e := by
  fun_induction skip state place hasBreak t with
  | case1 | case2 => cases failed; trivial
  | case3 | case4 | case5 | case10 => cases failed
  | _ =>
    rename_i ih
    exact (ih failed).suffix (List.suffix_cons _ _)

end Gap

/-! ## String literals -/

/-- The invariant of a reader: the escape that it is in the middle of stands in front of the
text. -/
theorem StringLiteral.refuses_of_scan {delimiter : Char} {opened place : Position} {state : State}
    {t : Text} {e : SourceError} (failed : scan delimiter opened state place t = .error e) :
    Text.Refuses (state.pending ++ t) e := by
  induction t generalizing state place with
  | nil => cases state <;> cases failed <;> trivial
  | cons p rest ih =>
    have stepped := @scan_cons delimiter opened place state p rest
    generalize scan delimiter opened state place (p :: rest) = result at stepped failed
    rw [← List.singleton_append, ← List.append_assoc]
    cases stepped with
    | done => cases failed
    | fault => cases failed; trivial
    | far far =>
      cases failed
      obtain ⟨digits, n, inside, far⟩ := far
      exact ⟨digits, n, inside.trans (List.prefix_append ..).isInfix, far⟩
    | @more state' f pending keeps =>
      cases again : scan delimiter opened state' (place.step p rest) rest with
      | ok literal => rw [again] at failed; cases failed
      | error e' =>
        rw [again] at failed
        cases failed
        refine (ih again).suffix ?_
        obtain ⟨front, same⟩ := pending
        rw [← same, List.append_assoc]
        exact List.suffix_append ..

/-! ## Numerals -/

namespace Numeral

variable {t raw : Text}

theorem length_of_decimalDigits? {digits : Text} {values : List Nat}
    (read : decimalDigits? digits = some values) : values.length = digits.length := by
  unfold decimalDigits? at read
  induction digits generalizing values with
  | nil => cases read; rfl
  | cons p rest ih =>
    rw [List.mapM_cons] at read
    obtain ⟨d, -, read⟩ := Option.bind_eq_some_iff.mp read
    obtain ⟨ds, again, same⟩ := Option.bind_eq_some_iff.mp read
    cases same
    rw [List.length_cons, List.length_cons, ih again]

/-- Digits that cannot be read hold one that is not decimal. -/
theorem decimalDigits?_eq_none {digits : Text} (all : ∀ p ∈ digits, p.has isDigit = true)
    (unreadable : decimalDigits? digits = none) :
    ∃ c, .scalar c ∈ digits ∧ isDigit c = true ∧ decimalDigit? c = none := by
  induction digits with
  | nil => cases unreadable
  | cons p rest ih =>
    obtain ⟨isDigit, later⟩ := List.forall_mem_cons.mp all
    cases p with
    | surrogate => cases isDigit
    | scalar c =>
      cases decimal : decimalDigit? c with
      | none => exact ⟨c, List.mem_cons_self, isDigit, decimal⟩
      | some d =>
        cases again : decimalDigits? rest with
        | none =>
          obtain ⟨c', member, other⟩ := ih later again
          exact ⟨c', List.mem_cons_of_mem _ member, other⟩
        | some values =>
          unfold decimalDigits? at unreadable again
          simp [List.mapM_cons, decimal, again] at unreadable

theorem exponentValue?_eq_none (whole : scanExponent? t = some (t, []))
    (unreadable : exponentValue? t = none) :
    ∃ c, .scalar c ∈ t ∧ isDigit c = true ∧ decimalDigit? c = none := by
  unfold scanExponent? at whole
  split at whole
  · next e after =>
    split at whole
    · rcases signed : scanSign after with ⟨sign, digits⟩
      simp only [signed] at whole
      split at whole
      · cases whole
      · obtain ⟨-, ended⟩ := Prod.mk.inj (Option.some.inj whole)
        have all : ∀ p ∈ digits, p.has isDigit = true := by
          have split := spanHas_split isDigit digits
          rw [ended, List.append_nil] at split
          exact split ▸ has_of_mem_spanHas
        have read : decimalDigits? digits = none := by
          simpa [exponentValue?, signed] using unreadable
        obtain ⟨c, member, other⟩ := decimalDigits?_eq_none all read
        have split := (scanSign_split after).1
        rw [signed] at split
        refine ⟨c, List.mem_cons_of_mem _ ?_, other⟩
        rw [← split]
        exact List.mem_append_right _ member
    · cases whole
  · cases whole
    cases unreadable

theorem has_of_mem_scanFraction : ∀ p ∈ (scanFraction t).1.drop 1, p.has isDigit = true := by
  unfold scanFraction
  split
  · exact has_of_mem_spanHas
  · exact nofun

/-- A whole decimal literal has digits, a fraction and an exponent. -/
theorem exists_decimalParts (spelled : scanDecimal raw = .ok (raw, [])) :
    ∃ whole behind fraction exponent, spanHas isDigit raw = (whole, behind) ∧
      scanFraction behind = (fraction, exponent) ∧ raw = whole ++ (fraction ++ exponent) ∧
      (∀ p ∈ whole, p.has isDigit = true) ∧ (∀ p ∈ fraction.drop 1, p.has isDigit = true) ∧
      scanExponent? exponent = some (exponent, []) := by
  rcases wholeRead : spanHas isDigit raw with ⟨whole, behind⟩
  rcases fractionRead : scanFraction behind with ⟨fraction, exponent⟩
  have wholeDigits := @has_of_mem_spanHas isDigit raw
  have wholeSplit := spanHas_split isDigit raw
  rw [wholeRead] at wholeDigits wholeSplit
  have placeDigits := @has_of_mem_scanFraction behind
  have fractionSplit := (scanFraction_split behind).1
  rw [fractionRead] at placeDigits fractionSplit
  refine ⟨whole, behind, fraction, exponent, rfl, fractionRead, ?_, wholeDigits, placeDigits, ?_⟩
  · rw [fractionSplit, wholeSplit]
  · simp only [scanDecimal, wholeRead, fractionRead] at spelled
    split at spelled
    · cases spelled
    · next part rest read =>
      obtain ⟨-, rfl⟩ := Prod.mk.inj (Except.ok.inj spelled)
      have same := (scanExponent?_split read).1
      rw [List.append_nil] at same
      rw [read, same]

theorem decimalValue?_eq_none (spelled : scanDecimal raw = .ok (raw, []))
    (unreadable : decimalValue? raw = none) :
    (∃ c, .scalar c ∈ raw ∧ isDigit c = true ∧ decimalDigit? c = none) ∨
      (∀ p ∈ raw, p.has isDigit = true) ∧ Number.maxDecimalDigits < raw.length := by
  obtain ⟨whole, behind, fraction, exponent, wholeRead, fractionRead, parts, wholeDigits,
    placeDigits, exponentWhole⟩ := exists_decimalParts spelled
  simp only [decimalValue?, wholeRead, fractionRead] at unreadable
  -- Each part is in the literal, so a digit that is not decimal in a part is one in the literal.
  rw [parts]
  cases wholeValues : decimalDigits? whole with
  | none =>
    obtain ⟨c, member, other⟩ := decimalDigits?_eq_none wholeDigits wholeValues
    exact .inl ⟨c, List.mem_append_left _ member, other⟩
  | some values =>
    simp only [wholeValues, Option.bind_eq_bind, Option.bind_some] at unreadable
    by_cases integer : (fraction.isEmpty && exponent.isEmpty) = true
    · rw [if_pos integer] at unreadable
      obtain ⟨rfl, rfl⟩ : fraction = [] ∧ exponent = [] := by simpa using integer
      by_cases long : Number.maxDecimalDigits < values.length
      · rw [length_of_decimalDigits? wholeValues] at long
        rw [List.append_nil, List.append_nil]
        exact .inr ⟨wholeDigits, long⟩
      · rw [if_neg long] at unreadable
        cases unreadable
    · rw [if_neg integer] at unreadable
      left
      cases placeValues : decimalDigits? (fraction.drop 1) with
      | none =>
        obtain ⟨c, member, other⟩ := decimalDigits?_eq_none placeDigits placeValues
        have member := List.mem_append_left exponent (List.mem_of_mem_drop member)
        exact ⟨c, List.mem_append_right _ member, other⟩
      | some places =>
        cases power : exponentValue? exponent with
        | none =>
          obtain ⟨c, member, other⟩ := exponentValue?_eq_none exponentWhole power
          exact ⟨c, List.mem_append_right _ (List.mem_append_right _ member), other⟩
        | some power' =>
          rw [placeValues, Option.bind_some, power] at unreadable
          cases unreadable

/-- A numeral that denotes no number has a digit that is not decimal, or it is an integer with too
many digits. -/
theorem value?_eq_none (spelled : scanSpelling raw = .ok (raw, []))
    (unreadable : value? raw = none) :
    (∃ c, .scalar c ∈ raw ∧ isDigit c = true ∧ decimalDigit? c = none) ∨
      (∀ p ∈ raw, p.has isDigit = true) ∧ Number.maxDecimalDigits < raw.length := by
  unfold scanSpelling at spelled
  split at spelled
  · split at spelled
    · next found => simp [value?, found] at unreadable
    · next found =>
      simp only [value?, found] at unreadable
      exact decimalValue?_eq_none spelled unreadable
  · next other =>
    refine decimalValue?_eq_none spelled ?_
    rwa [value?] at unreadable
    exact other

end Numeral

/-! ## Tokens -/

namespace Scanner

variable {place : Position} {p : CodePoint} {rest t : Text} {e : SourceError}

theorem refuses_of_scanLexeme (failed : scanLexeme place p rest = .error e) :
    Text.Refuses (p :: rest) e := by
  have string {delimiter : Char} {opened place : Position}
      (failed : StringLiteral.scan delimiter opened .plain place rest = .error e) :
      Text.Refuses (p :: rest) e :=
    (StringLiteral.refuses_of_scan failed).suffix (List.suffix_cons p rest)
  unfold scanLexeme at failed
  split at failed
  · obtain failed | ⟨literal, -, failed⟩ := bind_eq_error.mp failed
    · exact string failed
    · cases failed
  split at failed
  · obtain failed | ⟨literal, -, failed⟩ := bind_eq_error.mp failed
    · exact string failed
    · cases failed
  split at failed
  · obtain failed | ⟨literal, -, failed⟩ := bind_eq_error.mp failed
    · unfold Numeral.scan at failed
      split at failed
      · cases failed; trivial
      · split at failed
        · cases failed; trivial
        · cases failed
    · cases failed
  split at failed
  · cases failed
  split at failed
  · cases failed; trivial
  split at failed
  · cases failed
  · cases failed; trivial

/-- A bound above the length of a text is not reached. -/
theorem refuses_of_scanFrom {bound : Nat} (room : t.length < bound)
    (failed : scanFrom bound place t = .error e) : t.Refuses e := by
  induction bound generalizing place t with
  | zero => omega
  | succ bound ih =>
    rw [scanFrom] at failed
    obtain failed | ⟨gap, skipped, failed⟩ := bind_eq_error.mp failed
    · exact Gap.refuses_of_skip failed
    obtain ⟨front, skips⟩ := Gap.exists_skips skipped trivial
    have split := skips.split
    split at failed
    · cases failed
    · next p rest head =>
      rw [head] at split
      obtain failed | ⟨scanned, found, failed⟩ := bind_eq_error.mp failed
      · exact (refuses_of_scanLexeme failed).suffix ⟨front, split.symm⟩
      obtain failed | ⟨tokens, -, failed⟩ := bind_eq_error.mp failed
      · obtain ⟨more, takes⟩ := exists_takes (Gap.head_of_skip skipped head) found
        rw [takes.split, ← List.cons_append, ← List.append_assoc] at split
        refine (ih ?_ failed).suffix ⟨_, split.symm⟩
        simp only [split, List.length_append, List.length_cons] at room
        omega
      · cases failed

end Scanner

theorem refuses_of_scan {t : Text} {e : SourceError} (failed : scan t = .error e) : t.Refuses e :=
  Scanner.refuses_of_scanFrom (Nat.lt_succ_self _) failed

/-- The numerals among the tokens of a text stand in the text. -/
theorem infix_of_scan {t : Text} {tokens : Tokens} {raw : Text} (found : scan t = .ok tokens)
    (member : .number raw ∈ tokens.ahead.map (·.lexeme)) : raw <:+: t := by
  obtain ⟨slices, tail, divided, -⟩ := Scanner.exists_division found
  rw [← divided.listed, List.map_map] at member
  obtain ⟨s, s_member, same⟩ := List.mem_map.mp member
  obtain ⟨before, after, rfl⟩ := List.append_of_mem s_member
  have spelled := (divided.stands s s_member).spelled
  rw [show s.token.lexeme = .number raw from same] at spelled
  obtain rfl : s.spelling = raw := spelled
  exact ⟨Slice.texts before ++ s.gap, Slice.texts after ++ tail, by simp [divided.text]⟩

end LibraryDescriptor
