import LibraryDescriptor.Proofs.Printer.Pieces
import LibraryDescriptor.Proofs.Token.Layout

/-!
# Layouts and the `in` outside their brackets

A row of lexemes has brackets, and an `in` may stand outside of all of them. Layouts are put
together from parts of which this is known, and of which it is known in front of which texts the
scanner finds their lexemes again.

* `hasOpenIn` — whether a row has an `in` outside its brackets.
* `ShowsIn` — a row that closes its brackets, with or without such an `in`.
* `Layout.Shows` — a layout in front of texts of a kind, with one rule for each way to put layouts
  together.
-/

namespace LibraryDescriptor

/-! ## Rows -/

/-- How many brackets are open behind a lexeme, from how many are open in front of it. -/
def Lexeme.depth (before : Nat) : Lexeme → Nat
  | .punctuator .parenOpen | .punctuator .bracketOpen | .punctuator .braceOpen => before + 1
  | .punctuator .parenClose | .punctuator .bracketClose | .punctuator .braceClose => before - 1
  | _ => before

/-- Whether a row has an `in` outside all brackets, of which `depth` are open in front of the row. A
word behind a point is a name; `named` tells whether a point stands in front of the row. -/
def hasOpenIn : Nat → Bool → List Lexeme → Bool
  | _, _, [] => false
  | depth, named, x :: row =>
    (x = .keyword .in && depth = 0 && !named) ||
      hasOpenIn (x.depth depth) (x = .punctuator .dot) row

/-- A row closes the brackets that it opens; `shown` tells whether it has an `in` outside of
them. -/
def ShowsIn (row : List Lexeme) (shown : Bool) : Prop :=
  ∀ depth rest, hasOpenIn depth false (row ++ rest) =
    (depth = 0 && shown || hasOpenIn depth false rest)

/-- A lexeme that is neither a bracket nor a point nor an `in`. -/
def Lexeme.isNeutral (x : Lexeme) : Bool :=
  x ∉ [.keyword .in, .punctuator .dot, .punctuator .parenOpen, .punctuator .parenClose,
    .punctuator .bracketOpen, .punctuator .bracketClose, .punctuator .braceOpen,
    .punctuator .braceClose]

namespace ShowsIn

variable {left right : List Lexeme} {shown shown' : Bool} {x : Lexeme}

theorem hasOpenIn_eq (shows : ShowsIn left shown) : hasOpenIn 0 false left = shown := by
  simpa [hasOpenIn] using shows 0 []

theorem nil : ShowsIn [] false := fun depth rest => by simp

theorem append (first : ShowsIn left shown) (second : ShowsIn right shown') :
    ShowsIn (left ++ right) (shown || shown') := by
  intro depth rest
  rw [List.append_assoc, first, second, Bool.and_or_distrib_left, Bool.or_assoc]

theorem neutral (isNeutral : x.isNeutral = true) : ShowsIn [x] false := by
  intro depth rest
  simp only [Lexeme.isNeutral, List.mem_cons, not_or, decide_eq_true_eq] at isNeutral
  obtain ⟨noIn, noDot, others⟩ := isNeutral
  have same : x.depth depth = depth := by
    unfold Lexeme.depth
    split <;> simp_all
  simp [hasOpenIn, noIn, noDot, same]

theorem word : ShowsIn [.keyword .in] true := by
  intro depth rest
  simp [hasOpenIn, Lexeme.depth]

/-- Behind a point every word is a name. -/
theorem member (name : Text) :
    ShowsIn [.punctuator .dot, (Lexeme.identifier name).read] false := by
  intro depth rest
  cases found : Keyword.ofText? name <;> simp [hasOpenIn, Lexeme.read, found, Lexeme.depth]

def isPair (opening closing : Punctuator) : Bool :=
  (opening, closing) ∈ [(.parenOpen, .parenClose), (.bracketOpen, .bracketClose),
    (.braceOpen, .braceClose)]

/-- What stands between brackets is not in the open. -/
theorem between {opening closing : Punctuator} (pair : isPair opening closing = true)
    (inside : ShowsIn left shown) :
    ShowsIn (.punctuator opening :: (left ++ [.punctuator closing])) false := by
  intro depth rest
  have opens : (Lexeme.punctuator opening).depth depth = depth + 1 ∧
      opening ≠ .dot ∧ (Lexeme.punctuator closing).depth (depth + 1) = depth ∧
      closing ≠ .dot := by
    simp only [isPair, List.mem_cons, List.not_mem_nil, Prod.mk.injEq, or_false,
      decide_eq_true_eq] at pair
    obtain ⟨rfl, rfl⟩ | ⟨rfl, rfl⟩ | ⟨rfl, rfl⟩ := pair <;> exact ⟨rfl, nofun, rfl, nofun⟩
  obtain ⟨deeper, noDot, back, noDot'⟩ := opens
  simp [hasOpenIn, deeper, noDot, inside (depth + 1), back, noDot']

end ShowsIn

/-! ## Ends of lexemes -/

theorem Text.startsIn_scalar {chars : List Char} {c : Char} {t : Text} (member : c ∈ chars) :
    StartsIn chars (.scalar c :: t) := by
  rintro p ⟨⟩
  exact ⟨c, member, rfl⟩

theorem Text.headIs_append {start t : Text} {c : Char} (some : start ≠ []) :
    (start ++ t).headIs c = start.headIs c := by
  rw [headIs_eq_headHas, headHas_append some, headIs_eq_headHas]

/-- A text that starts like a punctuator, or nothing. -/
abbrev Text.Marks (t : Text) : Prop := t.StartsIn markChars

/-- A text that does not go on with a word. -/
abbrev Text.EndsWord (t : Text) : Prop := t.headHas isIdentifierPart = false

theorem Text.StartsIn.endsWord {t : Text} (marks : t.Marks) : t.EndsWord :=
  marks.headHas (marks_lack (by decide))

/-- A point ends in front of a name. -/
theorem Punctuator.dot_ends {name : Text} (word : name.isWord = true) (t : Text) :
    Punctuator.dot.Ends ((Layout.name name).text ++ t) := by
  cases name with
  | nil => cases word
  | cons p rest =>
    simp only [Text.isWord, Bool.and_eq_true] at word
    cases p with
    | surrogate => cases word.1
    | scalar c =>
      have start : isWordStart c = true := word.1
      have stops : Punctuator.stops .dot = ['.'] := by decide
      refine ⟨?_, fun _ => ?_⟩
      · simp only [stops, List.mem_singleton, forall_eq]
        exact CodePoint.not_is_of_has word.1 (by decide)
      · simp only [isWordStart, Bool.and_eq_true, Bool.not_eq_true'] at start
        exact start.1.2

/-! ## Layouts -/

namespace Layout

/-- In front of the texts of a kind the lexemes of a layout are found again; they close the brackets
that they open, and `shown` tells whether there is an `in` outside of them. -/
structure Shows (layout : Layout) (follow : Text → Prop) (shown : Bool) : Prop where
  separated : ∀ t, follow t → layout.Separated t
  row : ShowsIn layout.lexemes shown

/-- The same, where an `in` does not matter. -/
def Closes (layout : Layout) (follow : Text → Prop) : Prop := ∃ shown, layout.Shows follow shown

namespace Shows

variable {layout left right : Layout} {follow follow' : Text → Prop} {shown shown' : Bool}
  {x : Lexeme}

theorem closes (shows : layout.Shows follow shown) : layout.Closes follow := ⟨shown, shows⟩

theorem mono (shows : layout.Shows follow shown) (weaker : ∀ t, follow' t → follow t) :
    layout.Shows follow' shown :=
  ⟨fun t meets => shows.separated t (weaker t meets), shows.row⟩

theorem nil : Shows [] follow false := ⟨fun _ _ => trivial, .nil⟩

theorem space : Layout.space.Shows follow false := ⟨fun _ _ => trivial, .nil⟩

theorem newline (level : Nat) : Shows [.newline level] follow false := ⟨fun _ _ => trivial, .nil⟩

theorem gap (sameLine : Bool) (level : Nat) :
    Shows (if sameLine then Layout.space else [.newline level]) follow false := by
  cases sameLine with
  | true => exact space
  | false => exact newline level

theorem append (first : left.Shows follow shown) (second : right.Shows follow' shown')
    (meets : ∀ t, follow' t → follow (right.text ++ t)) :
    (left ++ right).Shows follow' (shown || shown') := by
  refine ⟨fun t behind => separated_append.mpr ⟨?_, second.separated t behind⟩, ?_⟩
  · exact first.separated _ (meets t behind)
  · rw [lexemes_append]
    exact first.row.append second.row

/-- Behind a layout that ends in front of every text. -/
theorem andThen (first : left.Shows (fun _ => True) shown) (second : right.Shows follow shown') :
    (left ++ right).Shows follow (shown || shown') :=
  first.append second fun _ _ => trivial

theorem lexeme (written : x.Written) (neutral : x.read.isNeutral = true) :
    Shows [.lexeme x] (fun t => x.Ends t) false :=
  ⟨fun _ ends => ⟨written, ends, trivial⟩, .neutral neutral⟩

/-- A lexeme with a space behind it. -/
theorem apart (written : x.Written) (row : ShowsIn [x.read] shown) :
    Shows (.lexeme x :: Layout.space) follow shown :=
  ⟨fun t _ => ⟨written, x.ends_blank (.inl rfl) t, trivial⟩, row⟩

theorem spaced (shows : layout.Shows Text.Marks shown) :
    (layout ++ Layout.space).Shows follow shown := by
  rw [← Bool.or_false shown]
  exact shows.append space fun _ _ => Text.startsIn_scalar (by decide)

/-- A punctuator between spaces. -/
theorem symbol {p : Punctuator} (shows : layout.Shows Text.Marks shown)
    (neutral : (Lexeme.punctuator p).isNeutral = true) :
    (layout ++ Layout.space ++ Layout.mark p ++ Layout.space).Shows follow shown := by
  rw [List.append_assoc, ← Bool.or_false shown]
  exact shows.spaced.andThen (apart (x := .punctuator p) trivial (.neutral neutral))

theorem word {k : Keyword} (other : k ≠ .in) : (Layout.word k).Shows Text.EndsWord false :=
  lexeme (x := .keyword k) trivial (by simpa [Lexeme.read, Lexeme.isNeutral] using other)

theorem inWord : (Layout.word .in).Shows Text.EndsWord true :=
  ⟨fun _ ends => ⟨trivial, ends, trivial⟩, .word⟩

theorem wordSpaced {k : Keyword} (other : k ≠ .in) :
    (Layout.word k ++ Layout.space).Shows follow false :=
  (word other).append space fun _ _ => rfl

theorem name {name : Text} (isName : name.IsName) : (Layout.name name).Shows Text.EndsWord false :=
  lexeme (x := .identifier name) isName.word (by
    rw [Lexeme.read_identifier isName]
    simp [Lexeme.isNeutral])

def separators : List Punctuator := [.semicolon, .comma, .colon]

theorem mark {p : Punctuator} (member : p ∈ separators) : (Layout.mark p).Shows follow false := by
  have each : ∀ p ∈ separators, p ∈ Punctuator.singles ∧
      (Lexeme.punctuator p).isNeutral = true := by decide
  obtain ⟨single, neutral⟩ := each p member
  exact (lexeme (x := .punctuator p) trivial neutral).mono fun t _ =>
    Punctuator.ends_of_mem_singles single t

/-- A name behind a point, even if it is spelled like a reserved word. -/
theorem member {name : Text} (word : name.isWord = true) :
    (Layout.mark .dot ++ Layout.name name).Shows Text.EndsWord false :=
  ⟨fun t ends => ⟨trivial, Punctuator.dot_ends word t, word, ends, trivial⟩, .member name⟩

/-! ### Brackets -/

theorem between {opening closing : Punctuator} (pair : ShowsIn.isPair opening closing = true)
    (inside : layout.Closes Text.Marks) :
    (Layout.mark opening ++ layout ++ Layout.mark closing).Shows follow false := by
  obtain ⟨shown, separated, row⟩ := inside
  have marks : opening ∈ Punctuator.singles ∧ closing ∈ Punctuator.singles ∧
      ∀ t, Text.Marks ((Layout.mark closing).text ++ t) := by
    simp only [ShowsIn.isPair, List.mem_cons, List.not_mem_nil, Prod.mk.injEq, or_false,
      decide_eq_true_eq] at pair
    obtain ⟨rfl, rfl⟩ | ⟨rfl, rfl⟩ | ⟨rfl, rfl⟩ := pair <;>
      exact ⟨by decide, by decide, fun t => Text.startsIn_scalar (by decide)⟩
  obtain ⟨opens, closes, behind⟩ := marks
  refine ⟨fun t _ => ?_, ?_⟩
  · rw [separated_append, separated_append]
    exact ⟨⟨⟨trivial, Punctuator.ends_of_mem_singles opens _, trivial⟩, separated _ (behind t)⟩,
      trivial, Punctuator.ends_of_mem_singles closes _, trivial⟩
  · simpa [Layout.mark, lexemes, Lexeme.read] using ShowsIn.between pair row

theorem parens (inside : layout.Closes Text.Marks) : (Layout.parens layout).Shows follow false :=
  between rfl inside

theorem brackets (inside : layout.Closes Text.Marks) :
    (Layout.brackets layout).Shows follow false :=
  between rfl inside

theorem noLines : (Layout.mark .braceOpen ++ Layout.mark .braceClose).Shows follow false :=
  show (Layout.mark .braceOpen ++ [] ++ Layout.mark .braceClose).Shows follow false from
    between rfl nil.closes

/-- Lines between braces, with the closing brace on a line of its own. -/
theorem braced (inside : layout.Closes fun _ => True) (level : Nat) :
    (Layout.mark .braceOpen ++ layout ++ (.newline level :: Layout.mark .braceClose)).Shows follow
      false := by
  obtain ⟨_, shows⟩ := inside
  have whole : (Layout.mark .braceOpen ++ (layout ++ [Piece.newline level]) ++
      Layout.mark .braceClose).Shows follow false :=
    between rfl (shows.andThen (newline level)).closes
  simpa using whole

/-! ### Lists -/

/-- Lines below one another. -/
theorem lines {level : Nat} {lines : List Layout}
    (each : ∀ line ∈ lines, line.Closes fun _ => True) :
    Closes (lines.flatMap (.newline level :: ·)) follow := by
  induction lines with
  | nil => exact nil.closes
  | cons line lines ih =>
    obtain ⟨⟨_, first⟩, later⟩ := List.forall_mem_cons.mp each
    obtain ⟨_, rest⟩ := ih later
    exact ⟨_, ((newline level).andThen first).andThen rest⟩

theorem braces {level : Nat} {lines : List Layout}
    (each : ∀ line ∈ lines, line.Closes fun _ => True) :
    (Layout.braces level lines).Shows follow false := by
  unfold Layout.braces
  split
  · exact noLines
  · exact braced (Shows.lines each) level

/-- Entries of an object behind the first one, up to the closing brace. -/
theorem laterEntries {level : Nat} {items : List Layout}
    (each : ∀ item ∈ items, item.Closes Text.Marks) :
    Closes (items.flatMap (fun l => Layout.mark .comma ++ (.newline (level + 1) :: l)) ++
      [.newline level]) follow ∧
      ∀ t, Text.Marks (Layout.text (items.flatMap
        (fun l => Layout.mark .comma ++ (.newline (level + 1) :: l)) ++
          [.newline level]) ++ t) := by
  induction items with
  | nil => exact ⟨(newline level).closes, fun t => Text.startsIn_scalar (by decide)⟩
  | cons item items ih =>
    obtain ⟨⟨_, first⟩, later⟩ := List.forall_mem_cons.mp each
    obtain ⟨⟨_, rest⟩, marks⟩ := ih later
    have front := (mark (p := .comma) (by decide)).andThen ((newline (level + 1)).andThen first)
    have whole := front.append rest fun t _ => marks t
    rw [← List.append_assoc] at whole
    exact ⟨whole.closes, fun t => Text.startsIn_scalar (by decide)⟩

/-- Entries of an object. -/
theorem entries {level : Nat} {items : List Layout}
    (each : ∀ item ∈ items, item.Closes Text.Marks) :
    (Layout.entries level items).Shows follow false := by
  cases items with
  | nil => exact noLines
  | cons item items =>
    obtain ⟨⟨_, first⟩, later⟩ := List.forall_mem_cons.mp each
    obtain ⟨⟨_, rest⟩, marks⟩ := @laterEntries Text.Marks level _ later
    have inside := ((newline (level + 1)).andThen first).append rest fun t _ => marks t
    have whole : (Layout.mark .braceOpen ++ _ ++ Layout.mark .braceClose).Shows follow false :=
      between rfl inside.closes
    simpa [Layout.entries] using whole

theorem commas_cons {layouts : List Layout} (first : layout.Shows Text.Marks shown)
    (later : (Layout.commas layouts).Shows Text.Marks shown') :
    (Layout.commas (layout :: layouts)).Shows Text.Marks (shown || shown') := by
  cases layouts with
  | nil =>
    obtain rfl : false = shown' := later.row.hasOpenIn_eq
    rw [Bool.or_false]
    exact first
  | cons next layouts =>
    have comma := first.append (mark (p := .comma) (by decide)) fun t (_ : True) =>
      Text.startsIn_scalar (by decide)
    have whole := (comma.andThen space).andThen later
    rw [Bool.or_false, Bool.or_false] at whole
    exact whole

end Shows

end Layout

end LibraryDescriptor
