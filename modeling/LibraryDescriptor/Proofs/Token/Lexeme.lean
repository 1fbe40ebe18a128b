import LibraryDescriptor.Printer.Layout
import LibraryDescriptor.Token.Scanner
import LibraryDescriptor.Proofs.Success
import LibraryDescriptor.Proofs.Token.Numeral
import LibraryDescriptor.Proofs.Token.StringLiteral

/-!
# Lexemes are read as they were written

The source text of a lexeme is scanned as that lexeme, provided that the text behind it does not
continue it.

* `Lexeme.Written`, `Lexeme.read` — the lexemes that can be written, and how they are read.
* `Lexeme.Ends` — a text that does not continue a lexeme.
* `Lexeme.Rescans` and `Lexeme.Written.rescans` — the scanner in front of a written lexeme.
* `scan_valid` — the lexemes that scanning finds.
* `scan_quoted` — a quoted text is scanned as one literal that denotes it.
-/

namespace LibraryDescriptor

/-! ## Words -/

def Gap.isGapChar (c : Char) : Bool := isLineTerminator c || isFiller c

def isWordStart (c : Char) : Bool := isIdentifierStart c && !isDigit c && !Gap.isGapChar c

def Text.isWord : Text → Bool
  | [] => false
  | p :: rest => p.has isWordStart && rest.all (·.has isIdentifierPart)

/-- A name: a word that is not reserved. -/
structure Text.IsName (t : Text) : Prop where
  word : t.isWord = true
  free : Keyword.ofText? t = none

theorem Keyword.mem_all (k : Keyword) : k ∈ all := by cases k <;> decide

theorem Keyword.isWord_and_ofText?_spelling :
    ∀ k ∈ all, k.spelling.isWord ∧ ofText? k.spelling = some k := by
  decide +kernel

theorem Text.isWord_spelling (k : Keyword) : k.spelling.isWord = true :=
  (Keyword.isWord_and_ofText?_spelling k k.mem_all).1

theorem Keyword.ofText?_spelling (k : Keyword) : ofText? k.spelling = some k :=
  (isWord_and_ofText?_spelling k k.mem_all).2

theorem Keyword.spelling_of_ofText? {t : Text} {k : Keyword} (found : ofText? t = some k) :
    k.spelling = t := by
  simpa using List.find?_some found

theorem isIdentifierPart_of_isWordStart {c : Char} (start : isWordStart c = true) :
    isIdentifierPart c = true := by
  simp only [isWordStart, isIdentifierStart, isIdentifierPart, Bool.and_eq_true,
    Bool.or_eq_true] at start ⊢
  obtain ⟨⟨(letter | dollar) | underscore, -⟩, -⟩ := start
  · exact .inl (.inl (.inl letter))
  · exact .inl (.inr dollar)
  · exact .inr underscore

theorem Text.all_of_isWord {t : Text} (word : t.isWord = true) :
    ∀ p ∈ t, p.has isIdentifierPart = true := by
  cases t with
  | nil => simp
  | cons p rest =>
    simp only [isWord, Bool.and_eq_true, List.all_eq_true] at word
    intro q member
    obtain rfl | member := List.mem_cons.mp member
    · cases q with
      | scalar c => exact isIdentifierPart_of_isWordStart word.1
      | surrogate => exact word.1
    · exact word.2 q member

/-! ## Lexemes that can be written -/

/-- The spelling of a numeric literal: it is read to its end, and it starts like a number. -/
structure Numeral.IsSpelling (raw : Text) : Prop where
  whole : scanSpelling raw = .ok (raw, [])
  starts : ∃ p rest, raw = p :: rest ∧ Scanner.startsNumber p rest = true ∧
    p.has Gap.isGapChar = false

namespace Lexeme

/-- A lexeme whose source text is that of a lexeme. A name may be spelled like a reserved word. -/
def Written : Lexeme → Prop
  | .identifier name => name.isWord = true
  | .number raw => Numeral.IsSpelling raw
  | _ => True

def Valid : Lexeme → Prop
  | .identifier name => name.IsName
  | .number raw => Numeral.IsSpelling raw
  | _ => True

def read : Lexeme → Lexeme
  | .identifier name =>
    match Keyword.ofText? name with
    | some word => .keyword word
    | none => .identifier name
  | lexeme => lexeme

theorem read_identifier {name : Text} (isName : name.IsName) :
    read (.identifier name) = .identifier name := by
  simp [read, isName.free]

theorem read_spelling (k : Keyword) : read (.identifier k.spelling) = .keyword k := by
  simp [read, Keyword.ofText?_spelling]

end Lexeme

/-- The characters in front of which a punctuator would be read as a longer one or a comment. -/
def Punctuator.stops (mark : Punctuator) : List Char :=
  (if mark = .slash then ['/', '*'] else []) ++
    Punctuator.all.filterMap fun longer =>
      if longer.spelling.startsWith mark.spelling then
        match longer.spelling.drop mark.spelling.length with
        | .scalar c :: _ => some c
        | _ => none
      else none

/-- A text that does not continue a punctuator. -/
structure Punctuator.Ends (mark : Punctuator) (t : Text) : Prop where
  stops : ∀ c ∈ mark.stops, t.headIs c = false
  digit : mark = .dot ∨ mark = .optional → t.headHas isDigit = false

/-- A text that does not continue a lexeme. -/
def Lexeme.Ends (t : Text) : Lexeme → Prop
  | .identifier _ | .keyword _ => t.headHas isIdentifierPart = false
  | .string _ => True
  | .number _ => t.StartsIn markChars
  | .punctuator mark => mark.Ends t

/-- The scanner reads a lexeme in front of a text: no gap is in its way, and the lexeme ends where
the text starts. -/
def Lexeme.Rescans (x : Lexeme) (t : Text) : Prop :=
  ∃ p rest, x.source ++ t = p :: rest ∧
    (∀ place hasBreak,
      Gap.skip .blank place hasBreak (p :: rest) = .ok ⟨place, hasBreak, p :: rest⟩) ∧
    ∀ place, Scanner.scanLexeme place p rest = .ok ⟨x.read, place.advance x.source.length, t⟩

/-! ## Rescanning -/

theorem Gap.has_isGapChar {p : CodePoint} (solid : p.has isGapChar = false) :
    p.has isLineTerminator = false ∧ p.has isFiller = false := by
  cases p with
  | surrogate => exact ⟨rfl, rfl⟩
  | scalar c => exact Bool.or_eq_false_iff.mp solid

theorem Gap.skip_solid {p : CodePoint} {rest : Text} (solid : p.has isGapChar = false)
    (comment : p.is '/' = true → rest.headIs '/' = false ∧ rest.headIs '*' = false)
    (place : Position) (hasBreak : Bool) :
    skip .blank place hasBreak (p :: rest) = .ok ⟨place, hasBreak, p :: rest⟩ := by
  obtain ⟨line, filler⟩ := has_isGapChar solid
  rw [skip, line, filler]
  cases slash : p.is '/' with
  | false => simp
  | true => simp [comment slash]

/-- A number starts with a digit or a point. -/
theorem Numeral.IsSpelling.not_headIs {raw : Text} (spelling : IsSpelling raw) {c : Char}
    (digit : isDigit c = false) (point : c ≠ '.') : raw.headIs c = false := by
  obtain ⟨p, rest, rfl, starts, -⟩ := spelling.starts
  simp only [Scanner.startsNumber, Bool.or_eq_true, Bool.and_eq_true] at starts
  obtain isDigit | ⟨isPoint, -⟩ := starts
  · exact CodePoint.not_is_of_has isDigit digit
  · cases p with
    | surrogate => rfl
    | scalar d =>
      simp only [CodePoint.is, beq_iff_eq, beq_eq_false_iff_ne, Text.headIs] at isPoint ⊢
      rw [isPoint]
      exact point.symm

namespace Lexeme

variable {t : Text}

/-- A word in front of a text that does not continue it, as the scanner finds it. -/
theorem scan_word {word : Text} (isWord : word.isWord = true)
    (ends : t.headHas isIdentifierPart = false) :
    ∃ p rest, word ++ t = p :: rest ∧
      (∀ place hasBreak,
        Gap.skip .blank place hasBreak (p :: rest) = .ok ⟨place, hasBreak, p :: rest⟩) ∧
      ∀ place, Scanner.scanLexeme place p rest =
        .ok ⟨read (.identifier word), place.advance word.length, t⟩ := by
  have all := Text.all_of_isWord isWord
  cases word with
  | nil => cases isWord
  | cons p more =>
    have start : p.has isWordStart = true := by
      simp only [Text.isWord, Bool.and_eq_true] at isWord
      exact isWord.1
    -- The start of a word is no quote and no digit, and it does not belong to a gap.
    have other : ∀ c, isWordStart c = false → p.is c = false := fun c none =>
      CodePoint.not_is_of_has start none
    have parts : p.has isIdentifierStart = true ∧ p.has isDigit = false ∧
        p.has Gap.isGapChar = false := by
      cases p with
      | surrogate => cases start
      | scalar c =>
        have start : isWordStart c = true := start
        simp only [isWordStart, Bool.and_eq_true, Bool.not_eq_true'] at start
        exact ⟨start.1.1, start.1.2, start.2⟩
    obtain ⟨identifier, digit, solid⟩ := parts
    refine ⟨p, more ++ t, rfl, ?_, ?_⟩
    · refine Gap.skip_solid solid fun slash => ?_
      rw [other '/' (by decide)] at slash
      cases slash
    · intro place
      have number : Scanner.startsNumber p (more ++ t) = false := by
        simp [Scanner.startsNumber, digit, other '.' (by decide)]
      have spanned := Numeral.spanHas_append all ends
      rw [List.cons_append] at spanned
      simp only [Scanner.scanLexeme, other '"' (by decide), other '\'' (by decide), number,
        identifier, Scanner.scanWord, spanned]
      rfl

theorem rescans_string (value : Text) : (Lexeme.string value).Rescans t := by
  refine ⟨.scalar '\'', value.flatMap StringLiteral.quotePoint ++ (.scalar '\'' :: t), ?_, ?_, ?_⟩
  · simp [source, StringLiteral.quote]
  · exact Gap.skip_solid (by decide) fun slash => absurd slash (by decide)
  · intro place
    rw [Scanner.scanLexeme, if_neg (by decide), if_pos (by decide),
      Position.step_scalar (by decide), StringLiteral.scan_quote]
    simp [source, StringLiteral.quote, read, Nat.add_comm, bind, Except.bind]

theorem rescans_number {raw : Text} (spelling : Numeral.IsSpelling raw)
    (ends : t.StartsIn markChars) : (Lexeme.number raw).Rescans t := by
  obtain ⟨p, rest, rfl, starts, solid⟩ := spelling.starts
  have other : ∀ c, isDigit c = false → c ≠ '.' → p.is c = false := fun _ digit point =>
    spelling.not_headIs digit point
  refine ⟨p, rest ++ t, rfl, ?_, ?_⟩
  · refine Gap.skip_solid solid fun slash => ?_
    rw [other '/' (by decide) (by decide)] at slash
    cases slash
  · intro place
    have number : Scanner.startsNumber p (rest ++ t) = true := by
      simp only [Scanner.startsNumber, Bool.or_eq_true, Bool.and_eq_true] at starts ⊢
      refine starts.imp_right fun ⟨isPoint, digit⟩ => ⟨isPoint, ?_⟩
      cases rest with
      | nil => cases digit
      | cons q more => exact digit
    have again := Numeral.scanSpelling_append spelling.whole ends
    rw [List.cons_append] at again
    simp only [Scanner.scanLexeme, other '"' (by decide) (by decide),
      other '\'' (by decide) (by decide), number, Numeral.scan, again,
      ends.headHas (@marks_lack isIdentifierStart (by decide))]
    rfl

end Lexeme

theorem Text.headHas_append {start t : Text} {property : Char → Bool} (some : start ≠ []) :
    (start ++ t).headHas property = start.headHas property := by
  cases start with
  | nil => exact absurd rfl some
  | cons p rest => rfl

namespace Punctuator

variable {t : Text}

theorem mem_all (mark : Punctuator) : mark ∈ all := by cases mark <;> decide

/-- No punctuator stands behind one that it starts with. -/
theorem not_startsWith_of_before : ∀ mark ∈ all, ∀ other ∈ all.takeWhile (· ≠ mark),
    mark.spelling.startsWith other.spelling = false := by
  decide +kernel

theorem all_split (mark : Punctuator) :
    ∃ later, all = all.takeWhile (· ≠ mark) ++ mark :: later := by
  cases mark <;> exact ⟨_, rfl⟩

theorem mem_stops {mark longer : Punctuator} {c : Char} {more : Text}
    (longer_eq : longer.spelling = mark.spelling ++ .scalar c :: more) : c ∈ mark.stops := by
  refine List.mem_append_right _ (List.mem_filterMap.mpr ⟨longer, mem_all longer, ?_⟩)
  have starts : longer.spelling.startsWith mark.spelling = true := by
    rw [longer_eq, Text.startsWith, List.isPrefixOf_iff_prefix]
    exact List.prefix_append ..
  rw [if_pos starts, longer_eq, List.drop_left]

theorem scalar_of_mem_spelling (mark : Punctuator) :
    ∀ p ∈ mark.spelling, ∃ c, p = .scalar c := by
  intro p member
  have inString : ∃ s : String, mark.spelling = Text.ofString s := by
    cases mark <;> exact ⟨_, rfl⟩
  obtain ⟨s, same⟩ := inString
  rw [same] at member
  obtain ⟨c, -, rfl⟩ := List.mem_map.mp member
  exact ⟨c, rfl⟩

/-- A punctuator in front of a text that does not continue it is the longest one there. -/
theorem find?_append {mark : Punctuator} (ends : mark.Ends t) :
    all.find? (Scanner.startsWithPunctuator (mark.spelling ++ t)) = some mark := by
  rw [List.find?_eq_some_iff_append]
  refine ⟨?_, ?_⟩
  · have starts : (mark.spelling ++ t).startsWith mark.spelling = true := by
      rw [Text.startsWith, List.isPrefixOf_iff_prefix]
      exact List.prefix_append ..
    simp only [Scanner.startsWithPunctuator, starts, Bool.true_and, Bool.not_eq_true',
      Bool.and_eq_false_imp, beq_iff_eq]
    rintro rfl
    exact ends.digit (.inr rfl)
  · obtain ⟨later, split⟩ := all_split mark
    refine ⟨_, later, split, fun other before => ?_⟩
    rw [Bool.not_eq_true', Bool.eq_false_iff]
    intro found
    have starts : other.spelling <+: mark.spelling ++ t := by
      simp only [Scanner.startsWithPunctuator, Bool.and_eq_true, Text.startsWith,
        List.isPrefixOf_iff_prefix] at found
      exact found.1
    -- Either the other one is no longer, or it goes on with the start of the text.
    by_cases longer : other.spelling.length ≤ mark.spelling.length
    · have inside := List.prefix_of_prefix_length_le starts (List.prefix_append ..) longer
      have none := not_startsWith_of_before mark (mem_all mark) other before
      rw [Text.startsWith, Bool.eq_false_iff, ne_eq, List.isPrefixOf_iff_prefix] at none
      exact none inside
    · obtain ⟨more, extended⟩ := List.prefix_of_prefix_length_le (List.prefix_append ..) starts
        (by omega : mark.spelling.length ≤ other.spelling.length)
      cases more with
      | nil => rw [List.append_nil] at extended; simp [extended] at longer
      | cons p more =>
        obtain ⟨c, rfl⟩ := scalar_of_mem_spelling other p (by simp [← extended])
        rw [← extended, List.prefix_append_right_inj] at starts
        have stop := ends.stops c (mem_stops extended.symm)
        obtain ⟨rest, rfl⟩ := starts
        exact Text.headIs_cons c _ stop

/-- How a punctuator starts: not like a gap, a word, a number or a quote. -/
theorem spelling_eq_cons (mark : Punctuator) : ∃ c more, mark.spelling = .scalar c :: more ∧
    Gap.isGapChar c = false ∧ isIdentifierStart c = false ∧ isDigit c = false ∧ c ≠ '"' ∧
      c ≠ '\'' ∧ c ≠ '`' ∧
      (c = '.' → mark = .dot ∧ more = [] ∨ more ≠ [] ∧ Text.headHas more isDigit = false) ∧
      (c = '/' → mark = .slash ∧ more = [] ∨
        more ≠ [] ∧ Text.headIs more '/' = false ∧ Text.headIs more '*' = false) := by
  cases mark <;> exact ⟨_, _, rfl, by decide⟩

theorem rescans {mark : Punctuator} (ends : mark.Ends t) :
    (Lexeme.punctuator mark).Rescans t := by
  obtain ⟨c, more, spelled, solid, word, digit, double, single, backquote, point, slash⟩ :=
    spelling_eq_cons mark
  have source : (Lexeme.punctuator mark).source = .scalar c :: more := spelled
  have other : ∀ d, c ≠ d → (CodePoint.scalar c).is d = false := fun d different => by
    simpa [CodePoint.is] using different
  refine ⟨.scalar c, more ++ t, by rw [source]; rfl, ?_, ?_⟩
  · refine Gap.skip_solid solid fun same => ?_
    have same : c = '/' := by simpa [CodePoint.is] using same
    obtain ⟨rfl, rfl⟩ | ⟨some, line, block⟩ := slash same
    · exact ⟨ends.stops '/' (by decide), ends.stops '*' (by decide)⟩
    · simp only [Text.headIs_eq_headHas, Text.headHas_append some] at line block ⊢
      exact ⟨line, block⟩
  · intro place
    have number : Scanner.startsNumber (.scalar c) (more ++ t) = false := by
      simp only [Scanner.startsNumber, CodePoint.has, digit, Bool.false_or, CodePoint.is,
        Bool.and_eq_false_imp, beq_iff_eq]
      intro same
      obtain ⟨rfl, rfl⟩ | ⟨some, none⟩ := point same
      · exact ends.digit (.inl rfl)
      · rw [Text.headHas_append some, none]
    have found := find?_append ends
    have scanned : Scanner.scanPunctuator? place (.scalar c :: (more ++ t)) =
        some ⟨.punctuator mark, place.advance mark.spelling.length, t⟩ := by
      rw [← List.cons_append, ← spelled, Scanner.scanPunctuator?, found]
      simp
    simp only [Scanner.scanLexeme, other _ double, other _ single, number, CodePoint.has, word,
      other _ backquote, scanned]
    rfl

/-- Blanks and line breaks continue no punctuator. -/
theorem not_stops_blank : ∀ mark ∈ all, ' ' ∉ mark.stops ∧ '\n' ∉ mark.stops := by
  decide +kernel

/-- Brackets, separators and other punctuators that are not the start of another one. -/
def singles : List Punctuator :=
  [.parenOpen, .parenClose, .bracketOpen, .bracketClose, .braceOpen, .braceClose, .semicolon,
    .comma, .colon, .tilde, .increment, .decrement]

theorem stops_singles : ∀ mark ∈ singles, mark.stops = [] ∧ mark ≠ .dot ∧ mark ≠ .optional := by
  decide +kernel

/-- A punctuator that nothing continues ends in front of every text. -/
theorem ends_of_mem_singles {mark : Punctuator} (member : mark ∈ singles) (t : Text) :
    mark.Ends t := by
  obtain ⟨stops, noDot, noOptional⟩ := stops_singles mark member
  exact ⟨by simp [stops], fun same => (same.elim noDot noOptional).elim⟩

end Punctuator

theorem Lexeme.Written.rescans {x : Lexeme} {t : Text} (written : x.Written) (ends : x.Ends t) :
    x.Rescans t := by
  match x with
  | .identifier name => exact scan_word written ends
  | .keyword k =>
    have found := scan_word (Text.isWord_spelling k) ends
    rw [read_spelling] at found
    exact found
  | .string value => exact rescans_string value
  | .number raw => exact rescans_number written ends
  | .punctuator mark => exact Punctuator.rescans ends

theorem Lexeme.Written.source_ne_nil {x : Lexeme} (written : x.Written) : x.source ≠ [] := by
  have some : ∀ word : Text, word.isWord = true → word ≠ [] := by
    rintro word isWord rfl
    cases isWord
  match x with
  | .identifier name => exact some name written
  | .keyword k => exact some k.spelling (Text.isWord_spelling k)
  | .string value => exact List.cons_ne_nil _ _
  | .number raw =>
    obtain ⟨p, rest, rfl, -, -⟩ := written.starts
    exact List.cons_ne_nil _ _
  | .punctuator mark =>
    obtain ⟨c, more, spelled, -⟩ := Punctuator.spelling_eq_cons mark
    intro empty
    exact absurd (spelled.symm.trans empty) (List.cons_ne_nil _ _)

/-- Every lexeme ends in front of a blank or a line break. -/
theorem Lexeme.ends_blank (x : Lexeme) {c : Char} (blank : c = ' ' ∨ c = '\n') (t : Text) :
    x.Ends (.scalar c :: t) := by
  match x with
  | .identifier _ | .keyword _ =>
    have part : isIdentifierPart c = false := by obtain rfl | rfl := blank <;> decide
    exact part
  | .string _ => trivial
  | .number _ =>
    rintro p ⟨⟩
    exact ⟨c, by obtain rfl | rfl := blank <;> decide, rfl⟩
  | .punctuator mark =>
    obtain ⟨space, newline⟩ := Punctuator.not_stops_blank mark (Punctuator.mem_all mark)
    refine ⟨fun d stop => ?_, fun _ => ?_⟩
    · simp only [Text.headIs, CodePoint.is, beq_eq_false_iff_ne]
      rintro rfl
      obtain rfl | rfl := blank
      · exact space stop
      · exact newline stop
    · have digit : isDigit c = false := by obtain rfl | rfl := blank <;> decide
      exact digit

/-! ## Scanned lexemes -/

theorem Gap.head_of_skip {state : State} {place : Position} {hasBreak : Bool} {t rest : Text}
    {gap : Skipped} {p : CodePoint} (skipped : skip state place hasBreak t = .ok gap)
    (head : gap.rest = p :: rest) : p.has isGapChar = false := by
  fun_induction skip state place hasBreak t with
  | case1 => cases skipped
  | case2 => cases skipped
  | case3 => cases skipped; cases head
  | case4 => cases skipped; cases head
  | case5 => cases skipped; cases head
  | case10 place hasBreak q more line filler lineComment blockComment =>
    cases skipped
    cases head
    cases p with
    | surrogate => rfl
    | scalar c =>
      exact Bool.or_eq_false_iff.mpr ⟨Bool.eq_false_iff.mpr line, Bool.eq_false_iff.mpr filler⟩
  | _ => rename_i ih; exact ih skipped

theorem Numeral.startsNumber_of_scanDecimal {p : CodePoint} {rest raw after : Text}
    (starts : Scanner.startsNumber p rest = true)
    (found : scanDecimal (p :: rest) = .ok (raw, after)) :
    ∃ more, raw = p :: more ∧ Scanner.startsNumber p more = true := by
  simp only [Scanner.startsNumber, Bool.or_eq_true, Bool.and_eq_true] at starts ⊢
  cases digit : p.has isDigit with
  | true =>
    simp only [scanDecimal, spanHas, List.takeWhile_cons, digit, if_true] at found
    split at found
    · cases found
    · cases found
      exact ⟨_, rfl, .inl rfl⟩
  | false =>
    obtain isDigit | ⟨isPoint, next⟩ := starts
    · exact absurd (digit.symm.trans isDigit) Bool.false_ne_true
    · obtain ⟨q, more, rfl⟩ : ∃ q more, rest = q :: more := by
        cases rest with
        | nil => cases next
        | cons q more => exact ⟨q, more, rfl⟩
      have nextDigit : q.has isDigit = true := next
      obtain rfl : p = .scalar '.' := by
        cases p with
        | surrogate => cases isPoint
        | scalar c => simpa [CodePoint.is] using isPoint
      simp only [scanDecimal, spanHas, List.takeWhile_cons, List.dropWhile_cons, digit, nextDigit,
        if_true, scanFraction, Bool.false_eq_true, if_false] at found
      split at found
      · cases found
      · cases found
        exact ⟨_, rfl, .inr ⟨rfl, nextDigit⟩⟩

theorem Numeral.isSpelling_of_scan {p : CodePoint} {rest raw after : Text}
    (solid : p.has Gap.isGapChar = false) (starts : Scanner.startsNumber p rest = true)
    (found : scanSpelling (p :: rest) = .ok (raw, after)) : IsSpelling raw := by
  refine ⟨?_, ?_⟩
  · have whole := @scanSpelling_append _ [] _ _ found nofun
    rwa [List.append_nil] at whole
  · suffices ∃ more, raw = p :: more ∧ Scanner.startsNumber p more = true by
      obtain ⟨more, rfl, starts⟩ := this
      exact ⟨p, more, rfl, starts, solid⟩
    unfold scanSpelling at found
    split at found
    · next letter tail same =>
      obtain ⟨rfl, rfl⟩ := List.cons.inj same
      split at found
      · simp only at found
        split at found
        · cases found
        · cases found
          exact ⟨_, rfl, rfl⟩
      · exact startsNumber_of_scanDecimal starts found
    · exact startsNumber_of_scanDecimal starts found

theorem Text.isWord_of_spanHas {p : CodePoint} {rest : Text} (start : p.has isWordStart = true) :
    (Numeral.spanHas isIdentifierPart (p :: rest)).1.isWord = true := by
  have part : p.has isIdentifierPart = true := by
    cases p with
    | surrogate => cases start
    | scalar c => exact isIdentifierPart_of_isWordStart start
  simp only [Numeral.spanHas, List.takeWhile_cons, part, if_true, isWord, start, Bool.true_and]
  exact List.all_takeWhile

theorem Scanner.valid_of_scanLexeme {place : Position} {p : CodePoint} {rest : Text}
    {scanned : Scanned} (solid : p.has Gap.isGapChar = false)
    (found : scanLexeme place p rest = .ok scanned) : scanned.lexeme.Valid := by
  unfold scanLexeme at found
  split at found
  · obtain ⟨literal, -, same⟩ := bind_eq_ok.mp found
    cases same
    trivial
  split at found
  · obtain ⟨literal, -, same⟩ := bind_eq_ok.mp found
    cases same
    trivial
  split at found
  · next starts =>
    obtain ⟨⟨raw, after⟩, number, same⟩ := bind_eq_ok.mp found
    cases same
    unfold Numeral.scan at number
    split at number
    · cases number
    · next spelled =>
      split at number
      · cases number
      · cases number
        exact Numeral.isSpelling_of_scan solid starts spelled
  split at found
  · next notNumber start =>
    cases found
    have isStart : p.has isWordStart = true := by
      cases p with
      | surrogate => cases start
      | scalar c =>
        simp only [startsNumber, Bool.or_eq_true, not_or, Bool.not_eq_true] at notNumber
        have digit : isDigit c = false := notNumber.1
        have solid : Gap.isGapChar c = false := solid
        have start : isIdentifierStart c = true := start
        simp [CodePoint.has, isWordStart, digit, solid, start]
    simp only [scanWord]
    split
    · trivial
    · next free => exact ⟨Text.isWord_of_spanHas isStart, free⟩
  split at found
  · cases found
  split at found
  · next punctuator =>
    cases found
    obtain ⟨mark, -, rfl⟩ := Option.map_eq_some_iff.mp punctuator
    trivial
  · cases found

/-- The lexemes that scanning finds are valid. -/
theorem Scanner.valid_of_scanFrom {bound : Nat} {place : Position} {t : Text} {tokens : Tokens}
    (found : scanFrom bound place t = .ok tokens) :
    ∀ token ∈ tokens.ahead, token.lexeme.Valid := by
  induction bound generalizing place t tokens with
  | zero => cases found
  | succ bound ih =>
    rw [scanFrom] at found
    obtain ⟨gap, skipped, found⟩ := bind_eq_ok.mp found
    split at found
    · cases found
      exact nofun
    · next p rest head =>
      obtain ⟨scanned, lexeme, found⟩ := bind_eq_ok.mp found
      obtain ⟨later, more, same⟩ := bind_eq_ok.mp found
      cases same
      intro token member
      obtain rfl | member := List.mem_cons.mp member
      · exact valid_of_scanLexeme (Gap.head_of_skip skipped head) lexeme
      · exact ih more token member

theorem scan_valid {t : Text} {tokens : Tokens} (found : scan t = .ok tokens) :
    ∀ token ∈ tokens.ahead, token.lexeme.Valid := Scanner.valid_of_scanFrom found

/-! ## Quoted texts -/

theorem scan_quote_append (value t : Text) :
    scan (StringLiteral.quote value ++ t) =
      (Scanner.scanFrom (StringLiteral.quote value ++ t).length
        ⟨1, 1 + (StringLiteral.quote value).length⟩ t).map fun later =>
          { later with ahead := ⟨.string value, ⟨⟨1, 1⟩, false⟩⟩ :: later.ahead } := by
  obtain ⟨p, rest, starts, skips, scans⟩ := Lexeme.rescans_string (t := t) value
  have starts : StringLiteral.quote value ++ t = p :: rest := starts
  rw [scan, starts, Scanner.scanFrom, skips]
  change (Scanner.scanLexeme .start p rest >>= _) = _
  rw [scans]
  change (Scanner.scanFrom _ ⟨1, 1 + (StringLiteral.quote value).length⟩ t >>= _) = _
  cases Scanner.scanFrom (p :: rest).length ⟨1, 1 + (StringLiteral.quote value).length⟩ t <;> rfl

/-- A quoted text is scanned as one literal that denotes it, and in front of another text scanning
goes on behind the literal. -/
theorem scan_quoted (value : Text) :
    scan (StringLiteral.quote value) = .ok ⟨[⟨.string value, ⟨⟨1, 1⟩, false⟩⟩],
      ⟨⟨1, 1 + (StringLiteral.quote value).length⟩, false⟩⟩ ∧
    ∀ t, scan (StringLiteral.quote value ++ t) =
      (Scanner.scanFrom (StringLiteral.quote value ++ t).length
        ⟨1, 1 + (StringLiteral.quote value).length⟩ t).map fun later =>
          { later with ahead := ⟨.string value, ⟨⟨1, 1⟩, false⟩⟩ :: later.ahead } := by
  refine ⟨?_, scan_quote_append value⟩
  have alone := scan_quote_append value []
  rw [List.append_nil] at alone
  rw [alone, StringLiteral.quote]
  rfl

end LibraryDescriptor
