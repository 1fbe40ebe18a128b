import LibraryDescriptor.Proofs.Syntax.Occurrences
import LibraryDescriptor.Scope.Use

/-!
# Binding occurrences

Which occurrences of a tree bind names, by the scope that they bind them in.

* `Statement.vars` — the variables that a statement leaves to the function or module around it.
* `Statement.lexicals` — the names that a statement binds in the block it stands in.
* `Statement.enclosed`, `Expression.enclosed` — the occurrences that bind names in scopes inside a
  statement or an expression.
* `Fits` — each use of a name and each of its binders is an occurrence of its own; one rule for each
  way in which a tree is put together.
* `Statement.count_le_occurrences` — uses and binding occurrences are different occurrences.
-/

namespace LibraryDescriptor

variable {ν : Type}

/-! ## Variables and lexical names -/

def Declaration.vars : Declaration ν → List ν
  | .variables .var declarators => declarators.map Declarator.name
  | .variables .let _ | .variables .const _ | .function _ _ _ => []

def Declaration.lexicals : Declaration ν → List ν
  | .function name _ _ => [name]
  | .variables .var _ => []
  | .variables .let declarators | .variables .const declarators =>
    declarators.map Declarator.name

def LoopHead.vars : LoopHead ν → List ν
  | .variables .var declarators => declarators.map Declarator.name
  | .variables .let _ | .variables .const _ | .expression _ => []

def LoopHead.lexicals : LoopHead ν → List ν
  | .variables .let declarators | .variables .const declarators =>
    declarators.map Declarator.name
  | .variables .var _ | .expression _ => []

/-- The variables that an optional loop head leaves to the function around it. -/
def LoopHead.varsOption : Option (LoopHead ν) → List ν
  | none => []
  | some head => head.vars

mutual

/-- The variables of a statement outside nested functions, which belong to the function or module
around it. -/
def Statement.vars : Statement ν → List ν
  | .declaration value => value.vars
  | .block body => Statement.varsList body
  | .if _ consequent alternate => consequent.vars ++ Statement.varsOption alternate
  | .for init _ _ body => LoopHead.varsOption init ++ body.vars
  | .forIn left _ body | .forOf left _ body => left.vars ++ body.vars
  | .while _ body | .doWhile body _ => body.vars
  | .try block handler finalizer =>
    Statement.varsList block ++ CatchClause.varsOption handler ++
      Statement.varsFinalizer finalizer
  | .switch _ cases => SwitchCase.varsList cases
  | .exportDeclaration _ | .exportList _ _ | .importList _ _ | .expression _ | .return _
  | .break | .continue | .throw _ | .empty => []

def Statement.varsList : List (Statement ν) → List ν
  | [] => []
  | s :: ss => s.vars ++ Statement.varsList ss

def Statement.varsOption : Option (Statement ν) → List ν
  | none => []
  | some s => s.vars

def Statement.varsFinalizer : Option (List (Statement ν)) → List ν
  | none => []
  | some body => Statement.varsList body

def CatchClause.varsOption : Option (CatchClause ν) → List ν
  | none => []
  | some (.mk _ body) => Statement.varsList body

def SwitchCase.varsList : List (SwitchCase ν) → List ν
  | [] => []
  | .mk _ consequent :: cases => Statement.varsList consequent ++ SwitchCase.varsList cases

end

def Statement.lexicals : Statement ν → List ν
  | .declaration value => value.lexicals
  | _ => []

def Statement.lexicalsList (body : List (Statement ν)) : List ν := body.flatMap Statement.lexicals

def SwitchCase.lexicalsList (cases : List (SwitchCase ν)) : List ν :=
  cases.flatMap fun | .mk _ consequent => Statement.lexicalsList consequent

/-! ## Enclosed binders -/

mutual

/-- The occurrences that bind names in scopes inside an expression. -/
def Expression.enclosed : Expression ν → List ν
  | .identifier _ | .literal _ _ | .this => []
  | .array elements => Expression.enclosedElements elements
  | .object properties => Property.enclosedList properties
  | .function name params body =>
    name.toList ++ params ++ Statement.varsList body ++ Statement.lexicalsList body ++
      Statement.enclosedList body
  | .arrow params body => params ++ body.enclosed
  | .arrowBlock params body =>
    params ++ Statement.varsList body ++ Statement.lexicalsList body ++ Statement.enclosedList body
  | .unary _ argument | .update _ _ argument => argument.enclosed
  | .binary _ left right | .logical _ left right | .assignment _ left right =>
    left.enclosed ++ right.enclosed
  | .conditional test consequent alternate =>
    test.enclosed ++ consequent.enclosed ++ alternate.enclosed
  | .call callee arguments | .new callee arguments =>
    callee.enclosed ++ Expression.enclosedList arguments
  | .member object property _ => object.enclosed ++ property.enclosed
  | .sequence expressions => Expression.enclosedList expressions

def Expression.enclosedList : List (Expression ν) → List ν
  | [] => []
  | e :: es => e.enclosed ++ Expression.enclosedList es

def Expression.enclosedElements : List (Option (Expression ν)) → List ν
  | [] => []
  | none :: es => Expression.enclosedElements es
  | some e :: es => e.enclosed ++ Expression.enclosedElements es

def Expression.enclosedOption : Option (Expression ν) → List ν
  | none => []
  | some e => e.enclosed

def Property.enclosedList : List (Property ν) → List ν
  | [] => []
  | .mk key value _ _ _ :: ps => key.enclosed ++ value.enclosed ++ Property.enclosedList ps

def Declarator.enclosedList : List (Declarator ν) → List ν
  | [] => []
  | .mk _ init :: ds => Expression.enclosedOption init ++ Declarator.enclosedList ds

def Declaration.enclosed : Declaration ν → List ν
  | .function _ params body =>
    params ++ Statement.varsList body ++ Statement.lexicalsList body ++ Statement.enclosedList body
  | .variables _ declarators => Declarator.enclosedList declarators

def LoopHead.enclosed : LoopHead ν → List ν
  | .variables _ declarators => Declarator.enclosedList declarators
  | .expression value => value.enclosed

/-- The binders of an optional handler: its parameter, and those in its block. -/
def CatchClause.enclosedOption : Option (CatchClause ν) → List ν
  | none => []
  | some (.mk param body) =>
    param.toList ++ Statement.lexicalsList body ++ Statement.enclosedList body

def SwitchCase.enclosedList : List (SwitchCase ν) → List ν
  | [] => []
  | .mk test consequent :: cases =>
    Expression.enclosedOption test ++ Statement.enclosedList consequent ++
      SwitchCase.enclosedList cases

def Statement.enclosed : Statement ν → List ν
  | .declaration value | .exportDeclaration value => value.enclosed
  | .exportList _ _ | .importList _ _ | .break | .continue | .empty => []
  | .expression value | .throw value => value.enclosed
  | .block body => Statement.lexicalsList body ++ Statement.enclosedList body
  | .return argument => Expression.enclosedOption argument
  | .if test consequent alternate =>
    test.enclosed ++ consequent.enclosed ++ Statement.enclosedOption alternate
  | .for none test update body =>
    Expression.enclosedOption test ++ Expression.enclosedOption update ++ body.enclosed
  | .for (some init) test update body =>
    init.lexicals ++ init.enclosed ++ Expression.enclosedOption test ++
      Expression.enclosedOption update ++ body.enclosed
  | .forIn left right body | .forOf left right body =>
    left.lexicals ++ left.enclosed ++ right.enclosed ++ body.enclosed
  | .while test body | .doWhile body test => test.enclosed ++ body.enclosed
  | .try block handler finalizer =>
    Statement.lexicalsList block ++ Statement.enclosedList block ++
      CatchClause.enclosedOption handler ++ Statement.enclosedFinalizer finalizer
  | .switch discriminant cases =>
    discriminant.enclosed ++ SwitchCase.lexicalsList cases ++ SwitchCase.enclosedList cases

def Statement.enclosedList : List (Statement ν) → List ν
  | [] => []
  | s :: ss => s.enclosed ++ Statement.enclosedList ss

def Statement.enclosedOption : Option (Statement ν) → List ν
  | none => []
  | some s => s.enclosed

def Statement.enclosedFinalizer : Option (List (Statement ν)) → List ν
  | none => []
  | some body => Statement.lexicalsList body ++ Statement.enclosedList body

end

/-! ## The names of scopes -/

theorem Declaration.hoisted_names (d : Declaration ν) : d.hoisted.map Declarator.name = d.vars := by
  obtain _ | ⟨kind, _⟩ := d
  · rfl
  · cases kind <;> rfl

theorem LoopHead.hoisted_names (head : LoopHead ν) :
    head.hoisted.map Declarator.name = head.vars := by
  match head with
  | .expression _ => rfl
  | .variables kind _ => cases kind <;> rfl

mutual

theorem Statement.hoisted_names :
    ∀ s : Statement ν, s.hoisted.map Declarator.name = s.vars
  | .declaration value => Declaration.hoisted_names value
  | .block body => Statement.hoistedList_names body
  | .if _ consequent none => by
    simp only [Statement.hoisted, Statement.vars, Statement.varsOption,
      Statement.hoisted_names consequent, List.append_nil]
  | .if _ consequent (some alternate) => by
    simp only [Statement.hoisted, Statement.vars, Statement.varsOption, List.map_append,
      Statement.hoisted_names consequent, Statement.hoisted_names alternate]
  | .for none _ _ body => Statement.hoisted_names body
  | .for (some init) _ _ body => by
    simp only [Statement.hoisted, Statement.vars, LoopHead.varsOption, List.map_append,
      LoopHead.hoisted_names init, Statement.hoisted_names body]
  | .forIn left _ body | .forOf left _ body => by
    simp only [Statement.hoisted, Statement.vars, List.map_append, LoopHead.hoisted_names left,
      Statement.hoisted_names body]
  | .while _ body | .doWhile body _ => Statement.hoisted_names body
  | .try block handler finalizer => by
    simp only [Statement.hoisted, Statement.vars, List.map_append,
      Statement.hoistedList_names block, CatchClause.hoistedOption_names handler,
      Statement.hoistedFinalizer_names finalizer]
  | .switch _ cases => SwitchCase.hoistedList_names cases
  | .exportDeclaration _ | .exportList _ _ | .importList _ _ | .expression _ | .return _
  | .break | .continue | .throw _ | .empty => rfl

theorem Statement.hoistedList_names :
    ∀ ss : List (Statement ν), (Statement.hoistedList ss).map Declarator.name =
      Statement.varsList ss
  | [] => rfl
  | s :: ss => by
    simp only [Statement.hoistedList, Statement.varsList, List.map_append,
      Statement.hoisted_names s, Statement.hoistedList_names ss]

theorem Statement.hoistedFinalizer_names :
    ∀ body : Option (List (Statement ν)),
      (Statement.hoistedFinalizer body).map Declarator.name = Statement.varsFinalizer body
  | none => rfl
  | some body => Statement.hoistedList_names body

theorem CatchClause.hoistedOption_names :
    ∀ handler : Option (CatchClause ν),
      (CatchClause.hoistedOption handler).map Declarator.name = CatchClause.varsOption handler
  | none => rfl
  | some (.mk _ body) => Statement.hoistedList_names body

theorem SwitchCase.hoistedList_names :
    ∀ cases : List (SwitchCase ν),
      (SwitchCase.hoistedList cases).map Declarator.name = SwitchCase.varsList cases
  | [] => rfl
  | .mk _ consequent :: cases => by
    simp only [SwitchCase.hoistedList, SwitchCase.varsList, List.map_append,
      Statement.hoistedList_names consequent, SwitchCase.hoistedList_names cases]

end

theorem Statement.lexicalNames_eq (s : Statement Occurrence) :
    s.lexicalNames = s.lexicals.map Occurrence.name := by
  cases s with
  | declaration value =>
    match value with
    | .function _ _ _ => rfl
    | .variables kind _ =>
      cases kind <;>
        simp [Statement.lexicalNames, Statement.lexicals, Declaration.lexicals, Function.comp_def]
  | _ => rfl

theorem lexicalNames_eq (body : List (Statement Occurrence)) :
    lexicalNames body = (Statement.lexicalsList body).map Occurrence.name := by
  rw [lexicalNames, Statement.lexicalsList, List.map_flatMap]
  exact congrArg (body.flatMap ·) (funext Statement.lexicalNames_eq)

theorem caseNames_eq (cases : List (SwitchCase Occurrence)) :
    caseNames cases = (SwitchCase.lexicalsList cases).map Occurrence.name := by
  rw [caseNames, SwitchCase.lexicalsList, List.map_flatMap]
  exact congrArg (cases.flatMap ·) (funext fun | .mk _ consequent => lexicalNames_eq consequent)

theorem bodyNames_eq (body : List (Statement Occurrence)) :
    bodyNames body =
      (Statement.varsList body ++ Statement.lexicalsList body).map Occurrence.name := by
  simp only [bodyNames, lexicalNames_eq, ← Statement.hoistedList_names, List.map_append,
    List.map_map, Function.comp_def]

theorem LoopHead.scopes_eq (head : LoopHead Occurrence) :
    head.scopes = [] ∧ head.lexicals = [] ∨
      head.scopes = [head.lexicals.map Occurrence.name] := by
  match head with
  | .expression _ => exact .inl ⟨rfl, rfl⟩
  | .variables kind _ =>
    cases kind <;> simp [LoopHead.scopes, LoopHead.lexicals, Function.comp_def]

/-! ## Binders of renamed trees -/

section Map

variable {μ : Type} (f : ν → μ)

theorem Declarator.mapList_names (ds : List (Declarator ν)) :
    (Declarator.mapList f ds).map Declarator.name = (ds.map Declarator.name).map f := by
  induction ds with
  | nil => rfl
  | cons d ds ih =>
    obtain ⟨name, _ | _⟩ := d <;>
      simp only [Declarator.mapList, Declarator.map, List.map_cons, Declarator.name, ih]

theorem Declaration.names_map (d : Declaration ν) : (d.map f).names = d.names.map f := by
  obtain _ | ⟨_, declarators⟩ := d
  · rfl
  · exact Declarator.mapList_names f declarators

theorem Declaration.vars_map (d : Declaration ν) : (d.map f).vars = d.vars.map f := by
  obtain _ | ⟨kind, declarators⟩ := d
  · rfl
  · cases kind <;> first | rfl | exact Declarator.mapList_names f declarators

theorem Declaration.lexicals_map (d : Declaration ν) : (d.map f).lexicals = d.lexicals.map f := by
  obtain _ | ⟨kind, declarators⟩ := d
  · rfl
  · cases kind <;> first | rfl | exact Declarator.mapList_names f declarators

theorem LoopHead.vars_map (head : LoopHead ν) : (head.map f).vars = head.vars.map f := by
  match head with
  | .expression _ => rfl
  | .variables kind declarators =>
    cases kind <;> first | rfl | exact Declarator.mapList_names f declarators

theorem Statement.lexicals_map (s : Statement ν) : (s.map f).lexicals = s.lexicals.map f := by
  cases s with
  | declaration value => exact Declaration.lexicals_map f value
  | «if» _ _ alternate => cases alternate <;> rfl
  | «for» init => cases init <;> rfl
  | _ => rfl

theorem Statement.lexicalsList_map :
    ∀ body : List (Statement ν),
      Statement.lexicalsList (Statement.mapList f body) = (Statement.lexicalsList body).map f
  | [] => rfl
  | s :: ss => by
    have tail := Statement.lexicalsList_map ss
    simp only [Statement.lexicalsList] at tail
    simp only [Statement.lexicalsList, Statement.mapList, List.flatMap_cons, List.map_append,
      Statement.lexicals_map f s, tail]

theorem SwitchCase.lexicalsList_map (cases : List (SwitchCase ν)) :
    SwitchCase.lexicalsList (SwitchCase.mapList f cases) =
      (SwitchCase.lexicalsList cases).map f := by
  induction cases with
  | nil => rfl
  | cons first cases tail =>
    simp only [SwitchCase.lexicalsList] at tail
    obtain ⟨_ | _, consequent⟩ := first <;>
      simp only [SwitchCase.lexicalsList, SwitchCase.mapList, SwitchCase.map, List.flatMap_cons,
        List.map_append, Statement.lexicalsList_map f consequent, tail]

mutual

theorem Statement.vars_map : ∀ s : Statement ν, (s.map f).vars = s.vars.map f
  | .declaration value => Declaration.vars_map f value
  | .block body => Statement.varsList_map body
  | .if _ consequent none => by
    simp only [Statement.map, Statement.vars, Statement.varsOption, List.append_nil,
      Statement.vars_map consequent]
  | .if _ consequent (some alternate) => by
    simp only [Statement.map, Statement.vars, Statement.varsOption, List.map_append,
      Statement.vars_map consequent, Statement.vars_map alternate]
  | .for none _ _ body => Statement.vars_map body
  | .for (some init) _ _ body => by
    simp only [Statement.map, Statement.vars, LoopHead.varsOption, List.map_append,
      LoopHead.vars_map f init, Statement.vars_map body]
  | .forIn left _ body | .forOf left _ body => by
    simp only [Statement.map, Statement.vars, List.map_append, LoopHead.vars_map f left,
      Statement.vars_map body]
  | .while _ body | .doWhile body _ => Statement.vars_map body
  | .try block handler finalizer => by
    simp only [Statement.map, Statement.vars, List.map_append, Statement.varsList_map block,
      CatchClause.varsOption_map handler, Statement.varsFinalizer_map finalizer]
  | .switch _ cases => SwitchCase.varsList_map cases
  | .exportDeclaration _ | .exportList _ _ | .importList _ _ | .expression _ | .return _
  | .break | .continue | .throw _ | .empty => rfl

theorem Statement.varsList_map :
    ∀ ss : List (Statement ν),
      Statement.varsList (Statement.mapList f ss) = (Statement.varsList ss).map f
  | [] => rfl
  | s :: ss => by
    simp only [Statement.mapList, Statement.varsList, List.map_append, Statement.vars_map s,
      Statement.varsList_map ss]

theorem Statement.varsFinalizer_map :
    ∀ body : Option (List (Statement ν)),
      Statement.varsFinalizer (Statement.mapOptionList f body) =
        (Statement.varsFinalizer body).map f
  | none => rfl
  | some body => Statement.varsList_map body

theorem CatchClause.varsOption_map :
    ∀ handler : Option (CatchClause ν),
      CatchClause.varsOption (CatchClause.mapOption f handler) =
        (CatchClause.varsOption handler).map f
  | none => rfl
  | some (.mk _ body) => Statement.varsList_map body

theorem SwitchCase.varsList_map :
    ∀ cases : List (SwitchCase ν),
      SwitchCase.varsList (SwitchCase.mapList f cases) = (SwitchCase.varsList cases).map f
  | [] => rfl
  | .mk none consequent :: cases | .mk (some _) consequent :: cases => by
    simp only [SwitchCase.mapList, SwitchCase.map, SwitchCase.varsList, List.map_append,
      Statement.varsList_map consequent, SwitchCase.varsList_map cases]

end

end Map

/-! ## Uses and binders are different occurrences -/

section Count

variable (p : Occurrence → Bool)

def countUses (uses : List Use) : Nat := uses.countP fun u => p u.occurrence

@[simp] theorem countUses_append (us vs : List Use) :
    countUses p (us ++ vs) = countUses p us + countUses p vs := List.countP_append

/-- Uses, and binders of three kinds, are different occurrences among some. -/
def Fits (uses : List Use) (vars lexicals enclosed occurrences : List Occurrence) : Prop :=
  countUses p uses + vars.countP p + lexicals.countP p + enclosed.countP p ≤ occurrences.countP p

namespace Fits

variable {p} {us us' : List Use} {vs vs' ls ls' es es' os os' : List Occurrence}

theorem nil : Fits p [] [] [] [] [] := Nat.le_refl 0

/-- Names that are bound in a scope inside. -/
theorem names (os : List Occurrence) : Fits p [] [] [] os os :=
  Nat.le_of_eq (Nat.zero_add (os.countP p))

theorem name (o : Occurrence) : Fits p [] [o] [] [] [o] := Nat.le_of_eq (Nat.zero_add _)

/-- Names that are variables in one place are lexical in another. -/
theorem lexical (fits : Fits p us vs [] es os) : Fits p us [] vs es os := by
  simpa only [Fits, List.countP_nil, Nat.add_zero] using fits

theorem append (first : Fits p us vs ls es os) (second : Fits p us' vs' ls' es' os') :
    Fits p (us ++ us') (vs ++ vs') (ls ++ ls') (es ++ es') (os ++ os') := by
  simp only [Fits, List.countP_append, countUses_append] at *
  omega

/-- An expression behind something that binds names. -/
theorem andThen (first : Fits p us vs ls es os) (second : Fits p us' [] [] es' os') :
    Fits p (us ++ us') vs ls (es ++ es') (os ++ os') := by
  simp only [Fits, List.countP_append, List.countP_nil, countUses_append] at *
  omega

/-- Uses in a part that the walk leaves out in some cases. -/
theorem ite (computed : Bool) (fits : Fits p us vs ls es os) :
    Fits p (if computed then us else []) vs ls es os := by
  cases computed with
  | true => exact fits
  | false =>
    simp only [Fits] at *
    exact Nat.le_trans (by simp [countUses]) fits

/-- What a statement binds in its block is not bound if it stands alone. -/
theorem alone (fits : Fits p us vs ls es os) : Fits p us vs [] es os := by
  simp only [Fits, List.countP_nil] at *
  omega

/-- A part with a scope of its own, behind an expression. -/
theorem scope (first : Fits p us [] [] es os) (inner : Fits p us' vs ls es' os') :
    Fits p (us ++ us') vs [] (es ++ ls ++ es') (os ++ os') := by
  simp only [Fits, List.countP_append, List.countP_nil, countUses_append] at *
  omega

/-- A function binds its variables too. -/
theorem function (head : List Occurrence) (inner : Fits p us vs ls es os) :
    Fits p us [] [] (head ++ vs ++ ls ++ es) (head ++ os) := by
  simp only [Fits, List.countP_append, List.countP_nil] at *
  omega

end Fits

mutual

theorem Expression.fits : ∀ (e : Expression Occurrence) (scopes : List (List Text)),
    Fits p (e.uses scopes) [] [] e.enclosed e.occurrences
  | .identifier _, _ => by
    simp [Fits, Expression.uses, Expression.enclosed, Expression.occurrences, countUses]
  | .literal _ _, _ | .this, _ => .nil
  | .array elements, scopes => Expression.fitsElements elements scopes
  | .object properties, scopes => Property.fitsList properties scopes
  | .function name params body, _ => (Statement.fitsList body _).function (name.toList ++ params)
  | .arrow params body, _ => (Fits.names params).append (body.fits _)
  | .arrowBlock params body, _ => (Statement.fitsList body _).function params
  | .unary _ argument, scopes | .update _ _ argument, scopes => argument.fits scopes
  | .binary _ left right, scopes | .logical _ left right, scopes
  | .assignment _ left right, scopes => (left.fits scopes).append (right.fits scopes)
  | .conditional test consequent alternate, scopes =>
    ((test.fits scopes).append (consequent.fits scopes)).append (alternate.fits scopes)
  | .call callee arguments, scopes | .new callee arguments, scopes =>
    (callee.fits scopes).append (Expression.fitsList arguments scopes)
  | .member object property computed, scopes =>
    (object.fits scopes).append ((property.fits scopes).ite computed)
  | .sequence expressions, scopes => Expression.fitsList expressions scopes

theorem Expression.fitsList : ∀ (es : List (Expression Occurrence)) (scopes : List (List Text)),
    Fits p (Expression.usesList es scopes) [] [] (Expression.enclosedList es)
      (Expression.occurrencesList es)
  | [], _ => .nil
  | e :: es, scopes => (e.fits scopes).append (Expression.fitsList es scopes)

theorem Expression.fitsElements :
    ∀ (es : List (Option (Expression Occurrence))) (scopes : List (List Text)),
      Fits p (Expression.usesElements es scopes) [] [] (Expression.enclosedElements es)
        (Expression.occurrencesElements es)
  | [], _ => .nil
  | none :: es, scopes => Expression.fitsElements es scopes
  | some e :: es, scopes => (e.fits scopes).append (Expression.fitsElements es scopes)

theorem Expression.fitsOption :
    ∀ (e : Option (Expression Occurrence)) (scopes : List (List Text)),
      Fits p (Expression.usesOption e scopes) [] [] (Expression.enclosedOption e)
        (Expression.occurrencesOption e)
  | none, _ => .nil
  | some e, scopes => e.fits scopes

theorem Property.fitsList : ∀ (ps : List (Property Occurrence)) (scopes : List (List Text)),
    Fits p (Property.usesList ps scopes) [] [] (Property.enclosedList ps)
      (Property.occurrencesList ps)
  | [], _ => .nil
  | .mk key value computed _ _ :: ps, scopes =>
    (((key.fits scopes).ite computed).append (value.fits scopes)).append
      (Property.fitsList ps scopes)

theorem Declarator.fitsList : ∀ (ds : List (Declarator Occurrence)) (scopes : List (List Text)),
    Fits p (Declarator.usesList ds scopes) (ds.map Declarator.name) [] (Declarator.enclosedList ds)
      (Declarator.occurrencesList ds)
  | [], _ => .nil
  | .mk name init :: ds, scopes =>
    ((Fits.name name).append (Expression.fitsOption init scopes)).append
      (Declarator.fitsList ds scopes)

theorem Declaration.fits : ∀ (d : Declaration Occurrence) (scopes : List (List Text)),
    Fits p (d.uses scopes) d.vars d.lexicals d.enclosed d.occurrences
  | .function name params body, _ =>
    (Fits.name name).lexical.append ((Statement.fitsList body _).function params)
  | .variables .var declarators, scopes => Declarator.fitsList declarators scopes
  | .variables .let declarators, scopes | .variables .const declarators, scopes =>
    (Declarator.fitsList declarators scopes).lexical

theorem LoopHead.fits : ∀ (head : LoopHead Occurrence) (scopes : List (List Text)),
    Fits p (head.uses scopes) head.vars head.lexicals head.enclosed head.occurrences
  | .variables .var declarators, scopes => Declarator.fitsList declarators scopes
  | .variables .let declarators, scopes | .variables .const declarators, scopes =>
    (Declarator.fitsList declarators scopes).lexical
  | .expression value, scopes => value.fits scopes

theorem CatchClause.fitsOption :
    ∀ (handler : Option (CatchClause Occurrence)) (scopes : List (List Text)),
      Fits p (CatchClause.usesOption handler scopes) (CatchClause.varsOption handler) []
        (CatchClause.enclosedOption handler) (CatchClause.occurrencesOption handler)
  | none, _ => .nil
  | some (.mk param body), _ => (Fits.names param.toList).scope (Statement.fitsList body _)

theorem SwitchCase.fitsList : ∀ (cases : List (SwitchCase Occurrence)) (scopes : List (List Text)),
    Fits p (SwitchCase.usesList cases scopes) (SwitchCase.varsList cases)
      (SwitchCase.lexicalsList cases) (SwitchCase.enclosedList cases)
      (SwitchCase.occurrencesList cases)
  | [], _ => .nil
  | .mk test consequent :: cases, scopes =>
    ((Expression.fitsOption test scopes).append (Statement.fitsList consequent scopes)).append
      (SwitchCase.fitsList cases scopes)

theorem Statement.fits : ∀ (s : Statement Occurrence) (scopes : List (List Text)),
    Fits p (s.uses scopes) s.vars s.lexicals s.enclosed s.occurrences
  | .declaration value, scopes => value.fits scopes
  | .exportDeclaration value, _ =>
    Nat.le_trans (Nat.add_le_add_right (Nat.zero_le _) _) (value.fits [])
  | .exportList _ _, _ | .importList _ _, _ => Nat.zero_le _
  | .expression value, scopes | .throw value, scopes => value.fits scopes
  | .block body, _ => Fits.nil.scope (Statement.fitsList body _)
  | .return argument, scopes => Expression.fitsOption argument scopes
  | .if test consequent alternate, scopes =>
    ((test.fits scopes).append (consequent.fits scopes).alone).append
      (Statement.fitsOption alternate scopes)
  | .for none test update body, scopes =>
    ((Expression.fitsOption test scopes).append (Expression.fitsOption update scopes)).append
      (body.fits scopes).alone
  | .for (some init) test update body, _ =>
    (((Fits.nil.scope (init.fits _)).andThen (Expression.fitsOption test _)).andThen
      (Expression.fitsOption update _)).append (body.fits _).alone
  | .forIn left right body, _ | .forOf left right body, _ =>
    ((Fits.nil.scope (left.fits _)).andThen (right.fits _)).append (body.fits _).alone
  | .while test body, scopes => (test.fits scopes).append (body.fits scopes).alone
  | .doWhile body test, scopes => by
    -- The walk takes the test first.
    refine Nat.le_trans ((test.fits scopes).append (body.fits scopes).alone) (Nat.le_of_eq ?_)
    simp only [Statement.occurrences, List.countP_append, Nat.add_comm]
  | .break, _ | .continue, _ | .empty, _ => .nil
  | .try block handler finalizer, scopes =>
    ((Fits.nil.scope (Statement.fitsList block _)).append
      (CatchClause.fitsOption handler scopes)).append (Statement.fitsFinalizer finalizer scopes)
  | .switch discriminant cases, scopes =>
    (discriminant.fits scopes).scope (SwitchCase.fitsList cases _)

theorem Statement.fitsList : ∀ (ss : List (Statement Occurrence)) (scopes : List (List Text)),
    Fits p (Statement.usesList ss scopes) (Statement.varsList ss) (Statement.lexicalsList ss)
      (Statement.enclosedList ss) (Statement.occurrencesList ss)
  | [], _ => .nil
  | s :: ss, scopes => (s.fits scopes).append (Statement.fitsList ss scopes)

theorem Statement.fitsOption :
    ∀ (s : Option (Statement Occurrence)) (scopes : List (List Text)),
      Fits p (Statement.usesOption s scopes) (Statement.varsOption s) []
        (Statement.enclosedOption s) (Statement.occurrencesOption s)
  | none, _ => .nil
  | some s, scopes => (s.fits scopes).alone

theorem Statement.fitsFinalizer :
    ∀ (body : Option (List (Statement Occurrence))) (scopes : List (List Text)),
      Fits p (Statement.usesFinalizer body scopes) (Statement.varsFinalizer body) []
        (Statement.enclosedFinalizer body) (Statement.occurrencesFinalizer body)
  | none, _ => .nil
  | some body, _ => Fits.nil.scope (Statement.fitsList body _)

end

theorem Declaration.count_le_occurrences (d : Declaration Occurrence) (scopes : List (List Text)) :
    countUses p (d.uses scopes) + d.vars.countP p + d.lexicals.countP p + d.enclosed.countP p ≤
      d.occurrences.countP p :=
  d.fits p scopes

/-- Uses and binding occurrences are different occurrences. -/
theorem Statement.count_le_occurrences (s : Statement Occurrence) (scopes : List (List Text)) :
    countUses p (s.uses scopes) + s.vars.countP p + s.lexicals.countP p + s.enclosed.countP p ≤
      s.occurrences.countP p :=
  s.fits p scopes

end Count

end LibraryDescriptor
