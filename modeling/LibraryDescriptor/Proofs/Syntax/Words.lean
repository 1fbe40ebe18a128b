import LibraryDescriptor.Printer.Layout
import LibraryDescriptor.Proofs.Syntax.Occurrences

/-!
# The words of a tree

Names and reserved words are the words of a text. A tree says which words it is written with, in the
order of the source, and which of them are its names.

* `Word` — a word of a tree; `Word.texts` — what is written for words; `Word.names`,
  `Word.written` — the names among them, and those that are written.
* `Expression.words`, `Statement.words`, … — the words of a tree.
* `Statement.Spelled`, `Program.Spelled` — the words of a module item and of a module; the lists of
  imports and exports can be written in more than one way.
* `Word.Names`, `Word.Renames` — words with given names, and words with new names; a rule for each
  way in which words are put together.
* `Statement.occurrences_map` — new names leave the occurrences in their order.
* `Program.Spelled.names_eq` — the names among the words of a module are its occurrences in order.
* `Program.Spelled.of_map` — new names leave the words where they are.
-/

namespace LibraryDescriptor

/-! ## Words -/

/-- A word of a tree whose names are of type `ν`. -/
inductive Word (ν : Type) where
  | keyword (word : Keyword)
  /-- A word that is reserved in its place only. -/
  | contextual (word : Text)
  | name (n : ν)
  /-- A name that is not written, as the name beside it stands for both. -/
  | silent (n : ν)
  deriving DecidableEq

namespace Word

variable {ν μ : Type}

@[simp] def map (f : ν → μ) : Word ν → Word μ
  | .keyword word => .keyword word
  | .contextual word => .contextual word
  | .name n => .name (f n)
  | .silent n => .silent (f n)

@[simp] def name? : Word ν → Option ν
  | .keyword _ | .contextual _ => none
  | .name n | .silent n => some n

@[simp] def written? : Word ν → Option ν
  | .name n => some n
  | .keyword _ | .contextual _ | .silent _ => none

@[simp] def text? (text : ν → Text) : Word ν → Option Text
  | .keyword word => some word.spelling
  | .contextual word => some word
  | .name n => some (text n)
  | .silent _ => none

/-- A word whose name is not written. -/
@[simp] def mute : Word ν → Word ν
  | .name n => .silent n
  | w => w

def names (ws : List (Word ν)) : List ν := ws.filterMap name?

def written (ws : List (Word ν)) : List ν := ws.filterMap written?

def texts (text : ν → Text) (ws : List (Word ν)) : List Text := ws.filterMap (text? text)

def ofLexeme : Lexeme → List (Word ν)
  | .keyword word => [.keyword word]
  | _ => []

/-- The words of a method: those of a function without the word in front. -/
def method : List (Word ν) → List (Word ν)
  | .keyword .function :: ws => ws
  | ws => ws

section Lists

variable (text : ν → Text) (f : ν → μ) (w : Word ν) (ws vs : List (Word ν))

@[simp] theorem names_nil : names ([] : List (Word ν)) = [] := rfl

@[simp] theorem names_cons : names (w :: ws) = w.name?.toList ++ names ws := by
  cases w <;> rfl

@[simp] theorem names_append : names (ws ++ vs) = names ws ++ names vs := List.filterMap_append

@[simp] theorem names_map_name (ns : List ν) : names (ns.map name) = ns := by
  induction ns with
  | nil => rfl
  | cons n ns ih => simp [ih]

@[simp] theorem names_ofLexeme (x : Lexeme) : names (ofLexeme x : List (Word ν)) = [] := by
  cases x <;> rfl

@[simp] theorem names_mute : names (ws.map mute) = names ws := by
  induction ws with
  | nil => rfl
  | cons w ws ih => cases w <;> simp [ih]

@[simp] theorem names_method : names (method ws) = names ws := by
  unfold method
  split <;> rfl

@[simp] theorem written_nil : written ([] : List (Word ν)) = [] := rfl

@[simp] theorem written_cons : written (w :: ws) = w.written?.toList ++ written ws := by
  cases w <;> rfl

@[simp] theorem written_append : written (ws ++ vs) = written ws ++ written vs :=
  List.filterMap_append

@[simp] theorem written_method : written (method ws) = written ws := by
  unfold method
  split <;> rfl

theorem written_sublist : (written ws).Sublist (names ws) := by
  induction ws with
  | nil => exact .slnil
  | cons w ws ih =>
    cases w with
    | keyword | contextual => exact ih
    | name n => exact ih.cons_cons n
    | silent n => exact ih.cons n

@[simp] theorem texts_nil : texts text [] = [] := rfl

@[simp] theorem texts_cons : texts text (w :: ws) = (w.text? text).toList ++ texts text ws := by
  cases w <;> rfl

@[simp] theorem texts_append : texts text (ws ++ vs) = texts text ws ++ texts text vs :=
  List.filterMap_append

@[simp] theorem texts_map_name (ns : List ν) : texts text (ns.map name) = ns.map text := by
  induction ns with
  | nil => rfl
  | cons n ns ih => simp [ih]

theorem texts_map (text : μ → Text) : texts text (ws.map (map f)) = texts (text ∘ f) ws := by
  induction ws with
  | nil => rfl
  | cons w ws ih => cases w <;> simp [ih]

theorem names_map : names (ws.map (map f)) = (names ws).map f := by
  induction ws with
  | nil => rfl
  | cons w ws ih => cases w <;> simp [ih]

@[simp] theorem map_ofLexeme (x : Lexeme) : (ofLexeme x).map (map f) = ofLexeme x := by
  cases x <;> rfl

theorem map_mute : (ws.map mute).map (map f) = (ws.map (map f)).map mute := by
  induction ws with
  | nil => rfl
  | cons w ws ih => cases w <;> simp [ih]

@[simp] theorem map_method : (method ws).map (map f) = method (ws.map (map f)) := by
  match ws with
  | [] | .contextual _ :: _ | .name _ :: _ | .silent _ :: _ => rfl
  | .keyword word :: ws => cases word <;> rfl

end Lists

end Word

variable {ν : Type}

/-! ## Words of trees -/

def Literal.words : Literal → List (Word ν)
  | .string _ | .number _ => []
  | .boolean true => [.keyword .true]
  | .boolean false => [.keyword .false]
  | .null => [.keyword .null]

mutual

/-- The words of an expression. -/
def Expression.words : Expression ν → List (Word ν)
  | .identifier name => [.name name]
  | .literal value _ => value.words
  | .this => [.keyword .this]
  | .array elements => Expression.wordsElements elements
  | .object properties => Property.wordsList properties
  | .function name params body =>
    .keyword .function :: (name.toList ++ params).map .name ++ Statement.wordsList body
  | .arrow params body => params.map .name ++ body.words
  | .arrowBlock params body => params.map .name ++ Statement.wordsList body
  | .unary op argument => Word.ofLexeme op.lexeme ++ argument.words
  | .update _ _ argument => argument.words
  | .binary op left right | .logical op left right =>
    left.words ++ Word.ofLexeme op.lexeme ++ right.words
  | .assignment _ left right => left.words ++ right.words
  | .conditional test consequent alternate => test.words ++ consequent.words ++ alternate.words
  | .call callee arguments => callee.words ++ Expression.wordsList arguments
  | .new callee arguments => .keyword .new :: callee.words ++ Expression.wordsList arguments
  | .member object property _ => object.words ++ property.words
  | .sequence expressions => Expression.wordsList expressions

def Expression.wordsList : List (Expression ν) → List (Word ν)
  | [] => []
  | e :: es => e.words ++ Expression.wordsList es

def Expression.wordsElements : List (Option (Expression ν)) → List (Word ν)
  | [] => []
  | none :: es => Expression.wordsElements es
  | some e :: es => e.words ++ Expression.wordsElements es

def Expression.wordsOption : Option (Expression ν) → List (Word ν)
  | none => []
  | some e => e.words

/-- The words of an entry of an object. In a shorthand entry the value is written, not the key. -/
def Property.words : Property ν → List (Word ν)
  | .mk key value computed shorthand method =>
    (if shorthand && !computed then key.words.map Word.mute else key.words) ++
      if method then Word.method value.words else value.words

def Property.wordsList : List (Property ν) → List (Word ν)
  | [] => []
  | p :: ps => p.words ++ Property.wordsList ps

def Declarator.wordsList : List (Declarator ν) → List (Word ν)
  | [] => []
  | .mk name init :: ds => .name name :: Expression.wordsOption init ++ Declarator.wordsList ds

def Declaration.words : Declaration ν → List (Word ν)
  | .function name params body =>
    .keyword .function :: .name name :: params.map .name ++ Statement.wordsList body
  | .variables kind declarators => .keyword kind.keyword :: Declarator.wordsList declarators

def LoopHead.words : LoopHead ν → List (Word ν)
  | .variables kind declarators => .keyword kind.keyword :: Declarator.wordsList declarators
  | .expression value => value.words

def LoopHead.wordsOption : Option (LoopHead ν) → List (Word ν)
  | none => []
  | some head => head.words

def CatchClause.wordsOption : Option (CatchClause ν) → List (Word ν)
  | none => []
  | some (.mk param body) => .keyword .catch :: param.toList.map .name ++ Statement.wordsList body

def SwitchCase.testWords : Option (Expression ν) → List (Word ν)
  | none => [.keyword .default]
  | some test => .keyword .case :: test.words

def SwitchCase.wordsList : List (SwitchCase ν) → List (Word ν)
  | [] => []
  | .mk test consequent :: cases =>
    SwitchCase.testWords test ++ Statement.wordsList consequent ++ SwitchCase.wordsList cases

/-- The words of a statement. The lists of imports and exports, which are module items, count with
their names only; `Statement.Spelled` has how they are written. -/
def Statement.words : Statement ν → List (Word ν)
  | .declaration value => value.words
  | .exportDeclaration value => .keyword .export :: value.words
  | .exportList specifiers _ => (specifiers.flatMap fun s => [s.bound, s.exported]).map .name
  | .importList specifiers _ => (specifiers.flatMap fun s => [s.imported, s.bound]).map .name
  | .expression value => value.words
  | .block body => Statement.wordsList body
  | .return argument => .keyword .return :: Expression.wordsOption argument
  | .if test consequent none => .keyword .if :: test.words ++ consequent.words
  | .if test consequent (some alternate) =>
    .keyword .if :: test.words ++ consequent.words ++ .keyword .else :: alternate.words
  | .for init test update body =>
    .keyword .for :: LoopHead.wordsOption init ++ Expression.wordsOption test ++
      Expression.wordsOption update ++ body.words
  | .forIn left right body =>
    .keyword .for :: left.words ++ .keyword .in :: right.words ++ body.words
  | .forOf left right body =>
    .keyword .for :: left.words ++ .contextual "of" :: right.words ++ body.words
  | .while test body => .keyword .while :: test.words ++ body.words
  | .doWhile body test => .keyword .do :: body.words ++ .keyword .while :: test.words
  | .break => [.keyword .break]
  | .continue => [.keyword .continue]
  | .throw argument => .keyword .throw :: argument.words
  | .try block handler finalizer =>
    .keyword .try :: Statement.wordsList block ++ CatchClause.wordsOption handler ++
      Statement.wordsFinalizer finalizer
  | .switch discriminant cases =>
    .keyword .switch :: discriminant.words ++ SwitchCase.wordsList cases
  | .empty => []

def Statement.wordsList : List (Statement ν) → List (Word ν)
  | [] => []
  | s :: ss => s.words ++ Statement.wordsList ss

def Statement.wordsFinalizer : Option (List (Statement ν)) → List (Word ν)
  | none => []
  | some body => .keyword .finally :: Statement.wordsList body

end

/-! ## The names among the words -/

abbrev Word.Names (ws : List (Word ν)) (ns : List ν) : Prop := Word.names ws = ns

namespace Word.Names

variable {ws vs : List (Word ν)} {ns ms : List ν}

theorem append (first : Names ws ns) (second : Names vs ms) : Names (ws ++ vs) (ns ++ ms) := by
  rw [Names, names_append, first, second]

theorem behind (word : Keyword) (rest : Names ws ns) : Names (.keyword word :: ws) ns := rest

theorem listed (ns : List ν) : Names (ns.map .name) ns := names_map_name ns

/-- An operator has no names. -/
theorem operation (first : Names ws ns) (x : Lexeme) (second : Names vs ms) :
    Names (ws ++ ofLexeme x ++ vs) (ns ++ ms) := by
  simp [Names, first, second]

end Word.Names

section Names

open Word.Names (behind listed)

mutual

theorem Expression.names_words : ∀ e : Expression ν, Word.Names e.words e.occurrences
  | .identifier _ | .this => rfl
  | .literal value _ => by
    cases value with
    | boolean value => cases value <;> rfl
    | _ => rfl
  | .array elements => Expression.names_wordsElements elements
  | .object properties => Property.names_wordsList properties
  | .function name params body =>
    (behind _ (listed (name.toList ++ params))).append (Statement.names_wordsList body)
  | .arrow params body => (listed params).append body.names_words
  | .arrowBlock params body => (listed params).append (Statement.names_wordsList body)
  | .unary op argument => .append (Word.names_ofLexeme op.lexeme) argument.names_words
  | .update _ _ argument => argument.names_words
  | .binary op left right | .logical op left right =>
    left.names_words.operation op.lexeme right.names_words
  | .assignment _ left right | .member left right _ => left.names_words.append right.names_words
  | .conditional test consequent alternate =>
    (test.names_words.append consequent.names_words).append alternate.names_words
  | .call callee arguments =>
    callee.names_words.append (Expression.names_wordsList arguments)
  | .new callee arguments =>
    (behind _ callee.names_words).append (Expression.names_wordsList arguments)
  | .sequence expressions => Expression.names_wordsList expressions

theorem Expression.names_wordsList : ∀ es : List (Expression ν),
    Word.Names (Expression.wordsList es) (Expression.occurrencesList es)
  | [] => rfl
  | e :: es => e.names_words.append (Expression.names_wordsList es)

theorem Expression.names_wordsElements : ∀ es : List (Option (Expression ν)),
    Word.Names (Expression.wordsElements es) (Expression.occurrencesElements es)
  | [] => rfl
  | none :: es => Expression.names_wordsElements es
  | some e :: es => e.names_words.append (Expression.names_wordsElements es)

theorem Expression.names_wordsOption : ∀ e : Option (Expression ν),
    Word.Names (Expression.wordsOption e) (Expression.occurrencesOption e)
  | none => rfl
  | some e => e.names_words

theorem Property.names_wordsList : ∀ ps : List (Property ν),
    Word.Names (Property.wordsList ps) (Property.occurrencesList ps)
  | [] => rfl
  | .mk key value computed shorthand method :: ps => by
    cases computed <;> cases shorthand <;> cases method <;>
      simp [Word.Names, Property.words, Property.wordsList, Property.occurrencesList,
        key.names_words, value.names_words, Property.names_wordsList ps]

theorem Declarator.names_wordsList : ∀ ds : List (Declarator ν),
    Word.Names (Declarator.wordsList ds) (Declarator.occurrencesList ds)
  | [] => rfl
  | .mk name init :: ds =>
    ((listed [name]).append (Expression.names_wordsOption init)).append
      (Declarator.names_wordsList ds)

theorem Declaration.names_words : ∀ d : Declaration ν, Word.Names d.words d.occurrences
  | .function name params body =>
    (behind _ (listed (name :: params))).append (Statement.names_wordsList body)
  | .variables _ declarators => behind _ (Declarator.names_wordsList declarators)

theorem LoopHead.names_words : ∀ h : LoopHead ν, Word.Names h.words h.occurrences
  | .variables _ declarators => behind _ (Declarator.names_wordsList declarators)
  | .expression value => value.names_words

theorem LoopHead.names_wordsOption : ∀ h : Option (LoopHead ν),
    Word.Names (LoopHead.wordsOption h) (LoopHead.occurrencesOption h)
  | none => rfl
  | some head => head.names_words

theorem CatchClause.names_wordsOption : ∀ handler : Option (CatchClause ν),
    Word.Names (CatchClause.wordsOption handler) (CatchClause.occurrencesOption handler)
  | none => rfl
  | some (.mk param body) =>
    (behind _ (listed param.toList)).append (Statement.names_wordsList body)

theorem SwitchCase.names_testWords : ∀ test : Option (Expression ν),
    Word.Names (SwitchCase.testWords test) (Expression.occurrencesOption test)
  | none => rfl
  | some test => behind _ test.names_words

theorem SwitchCase.names_wordsList : ∀ cases : List (SwitchCase ν),
    Word.Names (SwitchCase.wordsList cases) (SwitchCase.occurrencesList cases)
  | [] => rfl
  | .mk test consequent :: cases =>
    ((SwitchCase.names_testWords test).append (Statement.names_wordsList consequent)).append
      (SwitchCase.names_wordsList cases)

theorem Statement.names_words : ∀ s : Statement ν, Word.Names s.words s.occurrences
  | .declaration value => value.names_words
  | .exportDeclaration value => behind _ value.names_words
  | .exportList _ _ | .importList _ _ => listed _
  | .expression value => value.names_words
  | .throw value => behind _ value.names_words
  | .block body => Statement.names_wordsList body
  | .return argument => behind _ (Expression.names_wordsOption argument)
  | .if test consequent none =>
    ((behind _ test.names_words).append consequent.names_words).trans (List.append_nil _).symm
  | .if test consequent (some alternate) =>
    ((behind _ test.names_words).append consequent.names_words).append
      (behind _ alternate.names_words)
  | .for init test update body =>
    (((behind _ (LoopHead.names_wordsOption init)).append
      (Expression.names_wordsOption test)).append
      (Expression.names_wordsOption update)).append body.names_words
  | .forIn left right body =>
    ((behind _ left.names_words).append (behind _ right.names_words)).append body.names_words
  | .forOf left right body =>
    have second : Word.Names (.contextual "of" :: right.words) right.occurrences :=
      right.names_words
    ((behind _ left.names_words).append second).append body.names_words
  | .while test body => (behind _ test.names_words).append body.names_words
  | .doWhile body test => (behind _ body.names_words).append (behind _ test.names_words)
  | .break | .continue | .empty => rfl
  | .try block handler finalizer =>
    ((behind _ (Statement.names_wordsList block)).append
      (CatchClause.names_wordsOption handler)).append (Statement.names_wordsFinalizer finalizer)
  | .switch discriminant cases =>
    (behind _ discriminant.names_words).append (SwitchCase.names_wordsList cases)

theorem Statement.names_wordsList : ∀ ss : List (Statement ν),
    Word.Names (Statement.wordsList ss) (Statement.occurrencesList ss)
  | [] => rfl
  | s :: ss => s.names_words.append (Statement.names_wordsList ss)

theorem Statement.names_wordsFinalizer : ∀ body : Option (List (Statement ν)),
    Word.Names (Statement.wordsFinalizer body) (Statement.occurrencesFinalizer body)
  | none => rfl
  | some body => behind _ (Statement.names_wordsList body)

end

end Names

/-! ## Words with new names -/

section Map

variable {μ : Type} (f : ν → μ)

abbrev Word.Renames (ws : List (Word μ)) (vs : List (Word ν)) : Prop := ws = vs.map (Word.map f)

namespace Word.Renames

variable {f} {ws ws' : List (Word μ)} {vs vs' : List (Word ν)}

theorem append (first : Renames f ws vs) (second : Renames f ws' vs') :
    Renames f (ws ++ ws') (vs ++ vs') := by
  rw [Renames, List.map_append, first, second]

theorem behind (word : Keyword) (rest : Renames f ws vs) :
    Renames f (.keyword word :: ws) (.keyword word :: vs) := congrArg _ rest

theorem listed (ns : List ν) : Renames f ((ns.map f).map .name) (ns.map .name) := by
  simp [Renames]

theorem option (n : Option ν) : Renames f ((n.map f).toList.map .name) (n.toList.map .name) := by
  cases n <;> rfl

theorem operator (x : Lexeme) : Renames f (ofLexeme x) (ofLexeme x) := (map_ofLexeme f x).symm

end Word.Renames

theorem Literal.map_words (value : Literal) : value.words.map (Word.map f) = value.words := by
  cases value with
  | boolean value => cases value <;> rfl
  | _ => rfl

open Word.Renames (behind listed option operator)

mutual

theorem Expression.words_map : ∀ e : Expression ν, Word.Renames f (e.map f).words e.words
  | .identifier _ | .this => rfl
  | .literal value _ => (value.map_words f).symm
  | .array elements => Expression.wordsElements_map elements
  | .object properties => Property.wordsList_map properties
  | .function none params body => (behind _ (listed params)).append (Statement.wordsList_map body)
  | .function (some name) params body =>
    (behind _ (listed (name :: params))).append (Statement.wordsList_map body)
  | .arrow params body => (listed params).append body.words_map
  | .arrowBlock params body => (listed params).append (Statement.wordsList_map body)
  | .unary op argument => (operator op.lexeme).append argument.words_map
  | .update _ _ argument => argument.words_map
  | .binary op left right | .logical op left right =>
    (left.words_map.append (operator op.lexeme)).append right.words_map
  | .assignment _ left right | .member left right _ => left.words_map.append right.words_map
  | .conditional test consequent alternate =>
    (test.words_map.append consequent.words_map).append alternate.words_map
  | .call callee arguments => callee.words_map.append (Expression.wordsList_map arguments)
  | .new callee arguments =>
    (behind _ callee.words_map).append (Expression.wordsList_map arguments)
  | .sequence expressions => Expression.wordsList_map expressions

theorem Expression.wordsList_map : ∀ es : List (Expression ν),
    Word.Renames f (Expression.wordsList (Expression.mapList f es)) (Expression.wordsList es)
  | [] => rfl
  | e :: es => e.words_map.append (Expression.wordsList_map es)

theorem Expression.wordsElements_map : ∀ es : List (Option (Expression ν)),
    Word.Renames f (Expression.wordsElements (Expression.mapElements f es))
      (Expression.wordsElements es)
  | [] => rfl
  | none :: es => Expression.wordsElements_map es
  | some e :: es => e.words_map.append (Expression.wordsElements_map es)

theorem Expression.wordsOption_map : ∀ e : Option (Expression ν),
    Word.Renames f (Expression.wordsOption (Expression.mapOption f e)) (Expression.wordsOption e)
  | none => rfl
  | some e => e.words_map

theorem Property.wordsList_map : ∀ ps : List (Property ν),
    Word.Renames f (Property.wordsList (Property.mapList f ps)) (Property.wordsList ps)
  | [] => rfl
  | .mk key value computed shorthand method :: ps => by
    cases computed <;> cases shorthand <;> cases method <;>
      simp [-List.map_map, Word.Renames, Property.mapList, Property.map, Property.words,
        Property.wordsList, Word.map_mute, key.words_map, value.words_map,
        Property.wordsList_map ps]

theorem Declarator.wordsList_map : ∀ ds : List (Declarator ν),
    Word.Renames f (Declarator.wordsList (Declarator.mapList f ds)) (Declarator.wordsList ds)
  | [] => rfl
  | .mk name none :: ds => (listed [name]).append (Declarator.wordsList_map ds)
  | .mk name (some init) :: ds =>
    ((listed [name]).append init.words_map).append (Declarator.wordsList_map ds)

theorem Declaration.words_map : ∀ d : Declaration ν, Word.Renames f (d.map f).words d.words
  | .function name params body =>
    (behind _ (listed (name :: params))).append (Statement.wordsList_map body)
  | .variables _ declarators => behind _ (Declarator.wordsList_map declarators)

theorem LoopHead.words_map : ∀ h : LoopHead ν, Word.Renames f (h.map f).words h.words
  | .variables _ declarators => behind _ (Declarator.wordsList_map declarators)
  | .expression value => value.words_map

theorem CatchClause.wordsOption_map : ∀ handler : Option (CatchClause ν),
    Word.Renames f (CatchClause.wordsOption (CatchClause.mapOption f handler))
      (CatchClause.wordsOption handler)
  | none => rfl
  | some (.mk param body) => (behind _ (option param)).append (Statement.wordsList_map body)

theorem SwitchCase.wordsList_map : ∀ cases : List (SwitchCase ν),
    Word.Renames f (SwitchCase.wordsList (SwitchCase.mapList f cases)) (SwitchCase.wordsList cases)
  | [] => rfl
  | .mk none consequent :: cases =>
    (behind _ (Statement.wordsList_map consequent)).append (SwitchCase.wordsList_map cases)
  | .mk (some test) consequent :: cases =>
    ((behind _ test.words_map).append (Statement.wordsList_map consequent)).append
      (SwitchCase.wordsList_map cases)

theorem Statement.words_map : ∀ s : Statement ν, Word.Renames f (s.map f).words s.words
  | .declaration value => value.words_map
  | .exportDeclaration value => behind _ value.words_map
  | .exportList _ _ | .importList _ _ => by
    simp [Word.Renames, Statement.map, Statement.words, List.flatMap_map, List.map_flatMap]
  | .expression value => value.words_map
  | .throw value => behind _ value.words_map
  | .block body => Statement.wordsList_map body
  | .return argument => behind _ (Expression.wordsOption_map argument)
  | .if test consequent none => (behind _ test.words_map).append consequent.words_map
  | .if test consequent (some alternate) =>
    ((behind _ test.words_map).append consequent.words_map).append (behind _ alternate.words_map)
  | .for none test update body =>
    ((behind _ (Expression.wordsOption_map test)).append (Expression.wordsOption_map update)).append
      body.words_map
  | .for (some init) test update body =>
    (((behind _ init.words_map).append (Expression.wordsOption_map test)).append
      (Expression.wordsOption_map update)).append body.words_map
  | .forIn left right body =>
    ((behind _ left.words_map).append (behind _ right.words_map)).append body.words_map
  | .forOf left right body =>
    have second : Word.Renames f (.contextual "of" :: (right.map f).words)
      (.contextual "of" :: right.words) := congrArg _ right.words_map
    ((behind _ left.words_map).append second).append body.words_map
  | .while test body => (behind _ test.words_map).append body.words_map
  | .doWhile body test => (behind _ body.words_map).append (behind _ test.words_map)
  | .break | .continue | .empty => rfl
  | .try block handler finalizer =>
    ((behind _ (Statement.wordsList_map block)).append
      (CatchClause.wordsOption_map handler)).append (Statement.wordsFinalizer_map finalizer)
  | .switch discriminant cases =>
    (behind _ discriminant.words_map).append (SwitchCase.wordsList_map cases)

theorem Statement.wordsList_map : ∀ ss : List (Statement ν),
    Word.Renames f (Statement.wordsList (Statement.mapList f ss)) (Statement.wordsList ss)
  | [] => rfl
  | s :: ss => s.words_map.append (Statement.wordsList_map ss)

theorem Statement.wordsFinalizer_map : ∀ body : Option (List (Statement ν)),
    Word.Renames f (Statement.wordsFinalizer (Statement.mapOptionList f body))
      (Statement.wordsFinalizer body)
  | none => rfl
  | some body => behind _ (Statement.wordsList_map body)

end

theorem Statement.occurrences_map (s : Statement ν) :
    (s.map f).occurrences = s.occurrences.map f := by
  rw [← Statement.names_words, Statement.words_map, Word.names_map, Statement.names_words]

theorem Statement.occurrencesList_map (ss : List (Statement ν)) :
    Statement.occurrencesList (Statement.mapList f ss) = (Statement.occurrencesList ss).map f := by
  rw [← Statement.names_wordsList, Statement.wordsList_map, Word.names_map,
    Statement.names_wordsList]

end Map

/-! ## Words of modules -/

/-- The words between the braces of a list of imports or exports, for its pairs of names. A pair of
one name twice can be written as that name. -/
inductive Word.Listed (text : ν → Text) : List (ν × ν) → List (Word ν) → Prop
  | nil : Listed text [] []
  | renamed {first second : ν} {pairs : List (ν × ν)} {ws : List (Word ν)} :
    Listed text pairs ws →
      Listed text ((first, second) :: pairs)
        (.name first :: .contextual "as" :: .name second :: ws)
  | kept {first second : ν} {pairs : List (ν × ν)} {ws : List (Word ν)} :
    text first = text second → Listed text pairs ws →
      Listed text ((first, second) :: pairs) (.name first :: .silent second :: ws)

def ExportSpecifier.pair (s : ExportSpecifier ν) : ν × ν := (s.bound, s.exported)

def ImportSpecifier.pair (s : ImportSpecifier ν) : ν × ν := (s.imported, s.bound)

/-- The words that a module item can be written with. -/
def Statement.Spelled (text : ν → Text) (s : Statement ν) (ws : List (Word ν)) : Prop :=
  match s with
  | .exportList specifiers source => ∃ inner,
    Word.Listed text (specifiers.map ExportSpecifier.pair) inner ∧
      ws = .keyword .export :: inner ++ if source.isSome then [.contextual "from"] else []
  | .importList specifiers _ =>
    specifiers = [] ∧ ws = [.keyword .import] ∨ ∃ inner,
      Word.Listed text (specifiers.map ImportSpecifier.pair) inner ∧
        ws = .keyword .import :: inner ++ [.contextual "from"]
  | s => ws = s.words

/-- The words that module items can be written with. -/
inductive Statement.SpelledList (text : ν → Text) : List (Statement ν) → List (Word ν) → Prop
  | nil : SpelledList text [] []
  | cons {s : Statement ν} {ss : List (Statement ν)} {ws vs : List (Word ν)} :
    s.Spelled text ws → SpelledList text ss vs → SpelledList text (s :: ss) (ws ++ vs)

/-- The words that a module can be written with. -/
def Program.Spelled (text : ν → Text) (program : Program ν) (ws : List (Word ν)) : Prop :=
  Statement.SpelledList text program.body ws

section Spelled

variable {text : ν → Text}

theorem Word.Listed.names_eq {pairs : List (ν × ν)} {ws : List (Word ν)}
    (listed : Listed text pairs ws) : names ws = pairs.flatMap fun (a, b) => [a, b] := by
  induction listed with
  | nil => rfl
  | renamed _ ih | kept _ _ ih => simp [ih]

theorem Statement.Spelled.names_eq {s : Statement ν} {ws : List (Word ν)}
    (spelled : s.Spelled text ws) : Word.names ws = s.occurrences := by
  cases s with
  | exportList specifiers source =>
    obtain ⟨inner, listed, rfl⟩ := spelled
    have pairs := listed.names_eq
    cases source <;>
      simpa [List.flatMap_map, ExportSpecifier.pair, Statement.occurrences] using pairs
  | importList specifiers source =>
    obtain ⟨rfl, rfl⟩ | ⟨inner, listed, rfl⟩ := spelled
    · rfl
    · have pairs := listed.names_eq
      simpa [List.flatMap_map, ImportSpecifier.pair, Statement.occurrences] using pairs
  | _ => exact (congrArg Word.names spelled).trans (Statement.names_words _)

theorem Program.Spelled.names_eq {program : Program ν} {ws : List (Word ν)}
    (spelled : program.Spelled text ws) : Word.names ws = program.occurrences := by
  obtain ⟨body⟩ := program
  change Statement.SpelledList text body ws at spelled
  induction spelled with
  | nil => rfl
  | cons first _ ih => rw [Word.names_append, first.names_eq, ih]; rfl

variable {μ : Type} {text : μ → Text} {f : ν → μ}

theorem Word.Listed.of_map : ∀ {pairs : List (ν × ν)} {ws : List (Word μ)},
    Listed text (pairs.map (Prod.map f f)) ws →
      ∃ vs, Listed (text ∘ f) pairs vs ∧ vs.map (Word.map f) = ws
  | [], _, .nil => ⟨[], .nil, rfl⟩
  | _ :: _, _, .renamed rest =>
    let ⟨_, listed, same⟩ := rest.of_map
    ⟨_, .renamed listed, by simp [same]⟩
  | _ :: _, _, .kept one rest =>
    let ⟨_, listed, same⟩ := rest.of_map
    ⟨_, .kept one listed, by simp [same]⟩

theorem Statement.Spelled.of_map {s : Statement ν} {ws : List (Word μ)}
    (spelled : (s.map f).Spelled text ws) :
    ∃ vs, s.Spelled (text ∘ f) vs ∧ vs.map (Word.map f) = ws := by
  cases s with
  | exportList specifiers source =>
    obtain ⟨inner, listed, rfl⟩ := spelled
    have mapped : Word.Listed text ((specifiers.map ExportSpecifier.pair).map (Prod.map f f))
        inner := by
      rwa [List.map_map] at listed ⊢
    obtain ⟨vs, earlier, rfl⟩ := mapped.of_map
    refine ⟨_, ⟨vs, earlier, rfl⟩, ?_⟩
    cases source <;> simp
  | importList specifiers source =>
    obtain ⟨absent, rfl⟩ | ⟨inner, listed, rfl⟩ := spelled
    · exact ⟨[.keyword .import], .inl ⟨List.map_eq_nil_iff.mp absent, rfl⟩, rfl⟩
    · have mapped : Word.Listed text ((specifiers.map ImportSpecifier.pair).map (Prod.map f f))
          inner := by
        rwa [List.map_map] at listed ⊢
      obtain ⟨vs, earlier, rfl⟩ := mapped.of_map
      exact ⟨_, .inr ⟨vs, earlier, rfl⟩, by simp⟩
  | «if» _ _ alternate =>
    cases alternate <;> exact ⟨_, rfl, (Statement.words_map f _).symm.trans spelled.symm⟩
  | «for» init =>
    cases init <;> exact ⟨_, rfl, (Statement.words_map f _).symm.trans spelled.symm⟩
  | _ => exact ⟨_, rfl, (Statement.words_map f _).symm.trans spelled.symm⟩

/-- The words of a module with new names are its words with new names. -/
theorem Program.Spelled.of_map {program : Program ν} {ws : List (Word μ)}
    (spelled : (program.map f).Spelled text ws) :
    ∃ vs, program.Spelled (text ∘ f) vs ∧ vs.map (Word.map f) = ws := by
  obtain ⟨body⟩ := program
  change Statement.SpelledList text (Statement.mapList f body) ws at spelled
  change ∃ vs, Statement.SpelledList (text ∘ f) body vs ∧ vs.map (Word.map f) = ws
  induction body generalizing ws with
  | nil =>
    cases spelled
    exact ⟨[], .nil, rfl⟩
  | cons s ss ih =>
    cases spelled with
    | cons first rest =>
      obtain ⟨vs, spelled, rfl⟩ := first.of_map
      obtain ⟨us, further, rfl⟩ := ih rest
      exact ⟨_, .cons spelled further, List.map_append⟩

end Spelled

end LibraryDescriptor
