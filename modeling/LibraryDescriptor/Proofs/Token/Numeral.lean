import LibraryDescriptor.Token.Numeral

/-!
# Numeric literals are read as they were written

A literal that was read from a text is read again in front of any text that cannot continue it.

* `Text.StartsIn` — the texts that start, if at all, with one of some characters.
* `Numeral.scanSpelling_append` — a literal in front of another text.
-/

namespace LibraryDescriptor

def Text.StartsIn (chars : List Char) (t : Text) : Prop :=
  ∀ p ∈ t.head?, ∃ c ∈ chars, p = .scalar c

/-- What can stand behind a literal: blanks and the first characters of punctuators, except for the
point. -/
def markChars : List Char :=
  [' ', '\n', '!', '%', '&', '(', ')', '*', '+', ',', '-', '/', ':', ';', '<', '=', '>', '?', '[',
   ']', '^', '\x7b', '|', '\x7d', '~']

theorem Text.StartsIn.headHas {chars : List Char} {t : Text} {property : Char → Bool}
    (starts : t.StartsIn chars) (none : ∀ c ∈ chars, property c = false) :
    t.headHas property = false := by
  cases t with
  | nil => rfl
  | cons p rest =>
    obtain ⟨c, member, rfl⟩ := starts p rfl
    exact none c member

theorem Text.headIs_eq_headHas (t : Text) (c : Char) : t.headIs c = t.headHas (· == c) := by
  cases t with
  | nil => rfl
  | cons p rest => cases p <;> rfl

theorem Text.headIs_cons (c : Char) (t : Text) : ¬ headIs (.scalar c :: t) c = false := by
  simp [headIs, CodePoint.is]

theorem CodePoint.not_is_of_has {property : Char → Bool} {p : CodePoint} {c : Char}
    (holds : p.has property = true) (other : property c = false) : p.is c = false := by
  cases p with
  | surrogate => rfl
  | scalar d =>
    simp only [CodePoint.is, beq_eq_false_iff_ne]
    rintro rfl
    exact Bool.false_ne_true (other.symm.trans holds)

theorem marks_lack {property : Char → Bool} (none : markChars.any property = false) :
    ∀ c ∈ markChars, property c = false := by
  simpa using none

theorem isDigit_marks : ∀ c ∈ markChars, isDigit c = false := marks_lack (by decide)

namespace Numeral

theorem spanHas_append {property : Char → Bool} {whole follow : Text}
    (all : ∀ p ∈ whole, p.has property = true) (stop : follow.headHas property = false) :
    spanHas property (whole ++ follow) = (whole, follow) := by
  have taken : follow.takeWhile (·.has property) = [] ∧
      follow.dropWhile (·.has property) = follow := by
    cases follow with
    | nil => exact ⟨rfl, rfl⟩
    | cons p rest =>
      have stops : p.has property = false := stop
      simp [stops]
  rw [spanHas, List.takeWhile_append_of_pos all, List.dropWhile_append_of_pos all, taken.1,
    taken.2, List.append_nil]

theorem has_of_mem_spanHas {property : Char → Bool} {t : Text} :
    ∀ p ∈ (spanHas property t).1, p.has property = true := by
  intro p member
  exact List.all_eq_true.mp List.all_takeWhile p member

/-! ## Parts of a literal -/

section Parts

variable {t follow part rest : Text}

/-- A fraction is read again in front of what is neither a digit nor, if it is empty, a point. -/
theorem scanFraction_append (found : scanFraction t = (part, rest))
    (digit : follow.headHas isDigit = false) (point : part = [] → follow.headIs '.' = false) :
    scanFraction (part ++ follow) = (part, follow) := by
  unfold scanFraction at found
  split at found
  · next after =>
    cases found
    have digits := spanHas_append (has_of_mem_spanHas (t := after)) digit
    simp only [scanFraction, List.cons_append]
    exact congrArg (fun span => (CodePoint.scalar '.' :: span.1, span.2)) digits
  · cases found
    unfold scanFraction
    split
    · next after same =>
      have stops := point rfl
      rw [List.nil_append] at same
      rw [same] at stops
      exact absurd stops (Text.headIs_cons '.' after)
    · rfl

theorem scanSign_append (found : scanSign t = (part, rest))
    (plus : part = [] → follow.headIs '+' = false) (minus : part = [] → follow.headIs '-' = false) :
    scanSign (part ++ follow) = (part, follow) := by
  unfold scanSign at found
  split at found
  · cases found; rfl
  · cases found; rfl
  · cases found
    unfold scanSign
    split
    · next after same =>
      have stops := plus rfl
      rw [List.nil_append] at same
      rw [same] at stops
      exact absurd stops (Text.headIs_cons '+' after)
    · next after same =>
      have stops := minus rfl
      rw [List.nil_append] at same
      rw [same] at stops
      exact absurd stops (Text.headIs_cons '-' after)
    · rfl

/-- An exponent part is read again in front of what is neither a digit nor, if it is empty, an
exponent letter. -/
theorem scanExponent?_append (found : scanExponent? t = some (part, rest))
    (digit : follow.headHas isDigit = false)
    (letter : part = [] → follow.headIs 'e' = false ∧ follow.headIs 'E' = false) :
    scanExponent? (part ++ follow) = some (part, follow) := by
  have empty : part = [] → scanExponent? (part ++ follow) = some (part, follow) := by
    rintro rfl
    obtain ⟨lower, upper⟩ := letter rfl
    cases follow with
    | nil => rfl
    | cons p more =>
      cases p with
      | surrogate => rfl
      | scalar e =>
        have other : ¬ (e = 'e' ∨ e = 'E') := by
          simpa [Text.headIs, CodePoint.is] using And.intro lower upper
        simp [scanExponent?, other]
  unfold scanExponent? at found
  split at found
  · next e after =>
    split at found
    · next isExponent =>
      rcases signed : scanSign after with ⟨sign, afterSign⟩
      rcases spanned : spanHas isDigit afterSign with ⟨digits, afterDigits⟩
      have all : ∀ p ∈ digits, p.has isDigit = true := by
        rw [← show (spanHas isDigit afterSign).1 = digits by rw [spanned]]
        exact has_of_mem_spanHas
      simp only [signed, spanned] at found
      split at found
      · cases found
      · next some =>
        cases found
        -- A digit follows an empty sign, so none is found there either.
        have unsigned : ∀ c, isDigit c = false → (digits ++ follow).headIs c = false := by
          intro c other
          cases digits with
          | nil => exact absurd rfl some
          | cons p ds => exact CodePoint.not_is_of_has (all p (List.mem_cons_self ..)) other
        have sign := scanSign_append signed (fun _ => unsigned '+' (by decide))
          (fun _ => unsigned '-' (by decide))
        rw [List.append_assoc, List.cons_append]
        simp only [scanExponent?, if_pos isExponent, sign, spanHas_append all digit, if_neg some]
    · cases found; exact empty rfl
  · cases found; exact empty rfl

/-- A fraction, if there is one, starts with a point. -/
theorem headHas_scanFraction {property : Char → Bool} (found : scanFraction t = (part, rest))
    (point : property '.' = false) (next : follow.headHas property = false) :
    (part ++ follow).headHas property = false := by
  unfold scanFraction at found
  split at found
  · cases found; exact point
  · cases found; exact next

/-- An exponent part, if there is one, starts with its letter. -/
theorem headHas_scanExponent? {property : Char → Bool}
    (found : scanExponent? t = some (part, rest)) (lower : property 'e' = false)
    (upper : property 'E' = false) (next : follow.headHas property = false) :
    (part ++ follow).headHas property = false := by
  unfold scanExponent? at found
  split at found
  · split at found
    · next isExponent =>
      simp only at found
      split at found
      · cases found
      · cases found
        obtain rfl | rfl := isExponent
        · exact lower
        · exact upper
    · cases found; exact next
  · cases found; exact next

end Parts

/-! ## Literals -/

section Literals

variable {t follow raw rest : Text}

/-- The parts of a decimal literal. The code point behind the whole digits, in any text that marks
can follow, is a point, an exponent letter or a mark. -/
theorem scanDecimal_parts (found : scanDecimal t = .ok (raw, rest))
    (marks : follow.StartsIn markChars) :
    ∃ whole more, raw ++ follow = whole ++ more ∧ (∀ p ∈ whole, p.has isDigit = true) ∧
      (∀ property : Char → Bool, property '.' = false → property 'e' = false →
        property 'E' = false → (∀ c ∈ markChars, property c = false) →
          more.headHas property = false) ∧
      scanDecimal (raw ++ follow) = .ok (raw, follow) := by
  rcases spanned : spanHas isDigit t with ⟨whole, afterWhole⟩
  rcases pointed : scanFraction afterWhole with ⟨fraction, afterFraction⟩
  have all : ∀ p ∈ whole, p.has isDigit = true := by
    rw [← show (spanHas isDigit t).1 = whole by rw [spanned]]
    exact has_of_mem_spanHas
  simp only [scanDecimal, spanned, pointed] at found
  split at found
  · cases found
  · next exponent afterExponent powered =>
    cases found
    have digit := marks.headHas isDigit_marks
    have power := scanExponent?_append powered digit fun _ => by
      simp only [Text.headIs_eq_headHas]
      exact ⟨marks.headHas (marks_lack (by decide)), marks.headHas (marks_lack (by decide))⟩
    have next : ∀ property : Char → Bool, property 'e' = false → property 'E' = false →
        (∀ c ∈ markChars, property c = false) → (exponent ++ follow).headHas property = false :=
      fun property lower upper none =>
        headHas_scanExponent? powered lower upper (marks.headHas none)
    have point := scanFraction_append pointed (next isDigit (by decide) (by decide) isDigit_marks)
      fun _ => by
        rw [Text.headIs_eq_headHas]
        exact next _ (by decide) (by decide) (marks_lack (by decide))
    refine ⟨whole, fraction ++ (exponent ++ follow), by simp, all, ?_, ?_⟩
    · intro property dot lower upper none
      exact headHas_scanFraction pointed dot (next property lower upper none)
    · have stop := headHas_scanFraction pointed (by decide : isDigit '.' = false)
        (next isDigit (by decide) (by decide) isDigit_marks)
      simp only [scanDecimal, List.append_assoc, spanHas_append all stop, point, power]

theorem baseDigits?_of_isDigit {c : Char} (digit : isDigit c = true) : baseDigits? c = none := by
  unfold baseDigits?
  split <;> first | rfl | exact absurd digit (by decide)

theorem baseDigits?_stops {letter : Char} {base : Nat} {isBaseDigit : Char → Bool}
    (found : baseDigits? letter = some (base, isBaseDigit)) :
    ∀ c ∈ markChars, isBaseDigit c = false := by
  unfold baseDigits? at found
  split at found <;> cases found <;> exact marks_lack (by decide)

/-- A decimal literal does not start like one of another base. -/
theorem scanSpelling_eq_scanDecimal (found : scanDecimal t = .ok (raw, rest))
    (marks : follow.StartsIn markChars) :
    scanSpelling (raw ++ follow) = scanDecimal (raw ++ follow) := by
  obtain ⟨whole, more, same, all, next, -⟩ := scanDecimal_parts found marks
  unfold scanSpelling
  split
  · next letter after starts =>
    have none : baseDigits? letter = none := by
      rw [same] at starts
      match whole with
      | [] =>
        have stops := next isDigit (by decide) (by decide) (by decide) isDigit_marks
        rw [List.nil_append] at starts
        rw [starts] at stops
        exact absurd (show isDigit '0' = false from stops) (by decide)
      | [p] =>
        have stops := next (fun c => (baseDigits? c).isSome) (by decide) (by decide) (by decide)
          (marks_lack (by decide))
        obtain ⟨-, rfl⟩ := List.cons.inj starts
        simpa [Text.headHas, CodePoint.has] using stops
      | p :: q :: _ =>
        obtain ⟨-, tail⟩ := List.cons.inj starts
        obtain ⟨rfl, -⟩ := List.cons.inj tail
        exact baseDigits?_of_isDigit (all (.scalar letter) (by simp))
    simp only [none]
  · rfl

theorem scanSpelling_append (found : scanSpelling t = .ok (raw, rest))
    (marks : follow.StartsIn markChars) : scanSpelling (raw ++ follow) = .ok (raw, follow) := by
  have decimal : scanDecimal t = .ok (raw, rest) →
      scanSpelling (raw ++ follow) = .ok (raw, follow) := by
    intro found
    obtain ⟨-, -, -, -, -, again⟩ := scanDecimal_parts found marks
    rw [scanSpelling_eq_scanDecimal found marks, again]
  unfold scanSpelling at found
  split at found
  · next letter after =>
    split at found
    · next base isBaseDigit known =>
      rcases spanned : spanHas isBaseDigit after with ⟨digits, afterDigits⟩
      have all : ∀ p ∈ digits, p.has isBaseDigit = true := by
        rw [← show (spanHas isBaseDigit after).1 = digits by rw [spanned]]
        exact has_of_mem_spanHas
      simp only [spanned] at found
      split at found
      · cases found
      · next some =>
        cases found
        simp only [scanSpelling, List.cons_append, known,
          spanHas_append all (marks.headHas (baseDigits?_stops known)), if_neg some]
    · exact decimal found
  · exact decimal found

end Literals

end Numeral

end LibraryDescriptor
