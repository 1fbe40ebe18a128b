import LibraryDescriptor.Proofs.Scope.Binders
import LibraryDescriptor.Scope.Analysis

/-!
# Uses of renamed trees

A function of occurrences that keeps the names of the binders inside a tree changes the occurrences
of its uses and nothing else: each use stays where it is, under the same scopes.

* `Keeps` — a function of occurrences keeps some names.
* `Renames` — it changes the occurrences of uses alone, with a rule for each kind of scope.
* `Expression.uses_map`, `Statement.uses_map` — the uses of a renamed tree.
* `Program.ownedUses_map`, `Program.definitions_map` — what a renamed module uses and declares.
-/

namespace LibraryDescriptor

/-- A function of occurrences keeps the names of the given ones. -/
def Keeps (f : Occurrence → Occurrence) (occurrences : List Occurrence) : Prop :=
  ∀ o ∈ occurrences, (f o).name = o.name

def Use.map (f : Occurrence → Occurrence) (u : Use) : Use := ⟨f u.occurrence, u.scopes⟩

variable {f : Occurrence → Occurrence}

@[simp] theorem keeps_append {os ps : List Occurrence} :
    Keeps f (os ++ ps) ↔ Keeps f os ∧ Keeps f ps :=
  List.forall_mem_append

theorem Keeps.map_names {os : List Occurrence} (kept : Keeps f os) :
    (os.map f).map Occurrence.name = os.map Occurrence.name := by
  rw [List.map_map]
  exact List.map_congr_left kept

/-! ## Scopes of renamed trees -/

theorem paramNames_map {params : List Occurrence} (isArrow : Bool) (kept : Keeps f params) :
    headNames none (params.map f) isArrow = headNames none params isArrow :=
  congrArg (· ++ _ ++ _) kept.map_names

theorem headNames_map {self : Option Occurrence} {params : List Occurrence} (isArrow : Bool)
    (self_kept : Keeps f self.toList) (params_kept : Keeps f params) :
    headNames (self.map f) (params.map f) isArrow = headNames self params isArrow := by
  cases self with
  | none => exact paramNames_map isArrow params_kept
  | some name =>
    have same : (f name).name = name.name := self_kept name (by simp)
    simp only [headNames, Option.map_some, same]
    exact congrArg (· ++ _ ++ _) params_kept.map_names

theorem lexicalNames_map {body : List (Statement Occurrence)}
    (kept : Keeps f (Statement.lexicalsList body)) :
    lexicalNames (Statement.mapList f body) = lexicalNames body := by
  rw [lexicalNames_eq, lexicalNames_eq, Statement.lexicalsList_map, kept.map_names]

theorem caseNames_map {cases : List (SwitchCase Occurrence)}
    (kept : Keeps f (SwitchCase.lexicalsList cases)) :
    caseNames (SwitchCase.mapList f cases) = caseNames cases := by
  rw [caseNames_eq, caseNames_eq, SwitchCase.lexicalsList_map, kept.map_names]

theorem bodyNames_map {body : List (Statement Occurrence)}
    (vars_kept : Keeps f (Statement.varsList body))
    (lexicals_kept : Keeps f (Statement.lexicalsList body)) :
    bodyNames (Statement.mapList f body) = bodyNames body := by
  have kept := keeps_append.mpr ⟨vars_kept, lexicals_kept⟩
  rw [bodyNames_eq, bodyNames_eq, Statement.varsList_map, Statement.lexicalsList_map,
    ← List.map_append, kept.map_names]

theorem Declarator.mapList_texts {declarators : List (Declarator Occurrence)}
    (kept : Keeps f (declarators.map Declarator.name)) :
    (Declarator.mapList f declarators).map (·.name.name) = declarators.map (·.name.name) := by
  have names := congrArg (List.map Occurrence.name) (Declarator.mapList_names f declarators)
  rw [kept.map_names] at names
  simpa [Function.comp_def] using names

theorem LoopHead.scopes_map {head : LoopHead Occurrence} (kept : Keeps f head.lexicals) :
    (head.map f).scopes = head.scopes := by
  match head with
  | .expression _ => rfl
  | .variables .var _ => rfl
  | .variables .let _ | .variables .const _ => exact congrArg ([·]) (Declarator.mapList_texts kept)

/-! ## Uses of renamed trees -/

abbrev Renames (f : Occurrence → Occurrence) (binders : List Occurrence) (renamed uses : List Use) :
    Prop :=
  Keeps f binders → renamed = uses.map (Use.map f)

namespace Renames

variable {os ps : List Occurrence} {us us' vs vs' : List Use}

theorem append (first : Renames f os us vs) (second : Renames f ps us' vs') :
    Renames f (os ++ ps) (us ++ us') (vs ++ vs') := by
  intro kept
  rw [List.map_append, first (keeps_append.mp kept).1, second (keeps_append.mp kept).2]

theorem ite (computed : Bool) (renames : Renames f os us vs) :
    Renames f os (if computed then us else []) (if computed then vs else []) := by
  cases computed with
  | true => exact renames
  | false => exact fun _ => rfl

theorem nil : Renames f [] [] [] := fun _ => rfl

/-- A part in a scope of its own, for which some binders stand, behind another part. -/
theorem scope {binders : List Occurrence} {scopes scopes' : List (List Text)}
    {renamed uses : List (List Text) → List Use} (first : Renames f os us vs)
    (same : Keeps f binders → scopes' = scopes)
    (inner : ∀ scopes, Renames f ps (renamed scopes) (uses scopes)) :
    Renames f (os ++ binders ++ ps) (us ++ renamed scopes') (vs ++ uses scopes) := by
  intro kept
  obtain ⟨front, rest⟩ := keeps_append.mp kept
  obtain ⟨before, binding⟩ := keeps_append.mp front
  rw [same binding, List.map_append, first before, inner scopes rest]

end Renames

theorem blockNames_map {body : List (Statement Occurrence)} (scopes : List (List Text))
    (kept : Keeps f (Statement.lexicalsList body)) :
    lexicalNames (Statement.mapList f body) :: scopes = lexicalNames body :: scopes :=
  congrArg (· :: scopes) (lexicalNames_map kept)

theorem handlerNames_map {param : Option Occurrence} {body : List (Statement Occurrence)}
    (scopes : List (List Text)) (kept : Keeps f (param.toList ++ Statement.lexicalsList body)) :
    lexicalNames (Statement.mapList f body) :: ((param.map f).map (·.name)).toList :: scopes =
      lexicalNames body :: (param.map (·.name)).toList :: scopes := by
  obtain ⟨param_kept, lexicals_kept⟩ := keeps_append.mp kept
  rw [lexicalNames_map lexicals_kept]
  cases param with
  | none => rfl
  | some name => simp [param_kept name (by simp)]

theorem functionNames_map (self : Option Occurrence) {params : List Occurrence} (isArrow : Bool)
    {body : List (Statement Occurrence)} (scopes : List (List Text))
    (kept : Keeps f (self.toList ++ params ++ Statement.varsList body ++
      Statement.lexicalsList body)) :
    (headNames (self.map f) (params.map f) isArrow ++ bodyNames (Statement.mapList f body)) ::
        scopes =
      (headNames self params isArrow ++ bodyNames body) :: scopes := by
  simp only [keeps_append] at kept
  obtain ⟨⟨⟨self_kept, params_kept⟩, vars_kept⟩, lexicals_kept⟩ := kept
  rw [headNames_map isArrow self_kept params_kept, bodyNames_map vars_kept lexicals_kept]

mutual

theorem Expression.uses_map : ∀ (e : Expression Occurrence) (scopes : List (List Text)),
    Renames f e.enclosed ((e.map f).uses scopes) (e.uses scopes)
  | .identifier _, _ | .literal _ _, _ | .this, _ => fun _ => rfl
  | .array elements, scopes => Expression.usesElements_map elements scopes
  | .object properties, scopes => Property.usesList_map properties scopes
  | .function name _ body, scopes =>
    (Renames.nil.scope (functionNames_map name false scopes) (Statement.usesList_map body) :)
  | .arrow _ body, scopes =>
    (Renames.nil.scope (fun kept => congrArg (· :: scopes) (paramNames_map true kept))
      body.uses_map :)
  | .arrowBlock _ body, scopes =>
    (Renames.nil.scope (functionNames_map none true scopes) (Statement.usesList_map body) :)
  | .unary _ argument, scopes | .update _ _ argument, scopes => argument.uses_map scopes
  | .binary _ left right, scopes | .logical _ left right, scopes
  | .assignment _ left right, scopes => (left.uses_map scopes).append (right.uses_map scopes)
  | .conditional test consequent alternate, scopes =>
    ((test.uses_map scopes).append (consequent.uses_map scopes)).append (alternate.uses_map scopes)
  | .call callee arguments, scopes | .new callee arguments, scopes =>
    (callee.uses_map scopes).append (Expression.usesList_map arguments scopes)
  | .member object property computed, scopes =>
    (object.uses_map scopes).append (.ite computed (property.uses_map scopes))
  | .sequence expressions, scopes => Expression.usesList_map expressions scopes

theorem Expression.usesList_map :
    ∀ (es : List (Expression Occurrence)) (scopes : List (List Text)),
      Renames f (Expression.enclosedList es) (Expression.usesList (Expression.mapList f es) scopes)
        (Expression.usesList es scopes)
  | [], _ => fun _ => rfl
  | e :: es, scopes => (e.uses_map scopes).append (Expression.usesList_map es scopes)

theorem Expression.usesElements_map :
    ∀ (es : List (Option (Expression Occurrence))) (scopes : List (List Text)),
      Renames f (Expression.enclosedElements es)
        (Expression.usesElements (Expression.mapElements f es) scopes)
        (Expression.usesElements es scopes)
  | [], _ => fun _ => rfl
  | none :: es, scopes => Expression.usesElements_map es scopes
  | some e :: es, scopes => (e.uses_map scopes).append (Expression.usesElements_map es scopes)

theorem Expression.usesOption_map :
    ∀ (e : Option (Expression Occurrence)) (scopes : List (List Text)),
      Renames f (Expression.enclosedOption e)
        (Expression.usesOption (Expression.mapOption f e) scopes) (Expression.usesOption e scopes)
  | none, _ => fun _ => rfl
  | some e, scopes => e.uses_map scopes

theorem Property.usesList_map : ∀ (ps : List (Property Occurrence)) (scopes : List (List Text)),
    Renames f (Property.enclosedList ps) (Property.usesList (Property.mapList f ps) scopes)
      (Property.usesList ps scopes)
  | [], _ => fun _ => rfl
  | .mk key value computed _ _ :: ps, scopes =>
    (Renames.append (.ite computed (key.uses_map scopes)) (value.uses_map scopes)).append
      (Property.usesList_map ps scopes)

theorem Declarator.usesList_map :
    ∀ (ds : List (Declarator Occurrence)) (scopes : List (List Text)),
      Renames f (Declarator.enclosedList ds) (Declarator.usesList (Declarator.mapList f ds) scopes)
        (Declarator.usesList ds scopes)
  | [], _ => fun _ => rfl
  | .mk _ none :: ds, scopes => Declarator.usesList_map ds scopes
  | .mk _ (some init) :: ds, scopes =>
    (init.uses_map scopes).append (Declarator.usesList_map ds scopes)

theorem Declaration.uses_map : ∀ (d : Declaration Occurrence) (scopes : List (List Text)),
    Renames f d.enclosed ((d.map f).uses scopes) (d.uses scopes)
  | .function _ _ body, scopes =>
    (Renames.nil.scope (functionNames_map none false scopes) (Statement.usesList_map body) :)
  | .variables _ declarators, scopes => Declarator.usesList_map declarators scopes

theorem LoopHead.uses_map : ∀ (head : LoopHead Occurrence) (scopes : List (List Text)),
    Renames f head.enclosed ((head.map f).uses scopes) (head.uses scopes)
  | .variables _ declarators, scopes => Declarator.usesList_map declarators scopes
  | .expression value, scopes => value.uses_map scopes

theorem CatchClause.usesOption_map :
    ∀ (handler : Option (CatchClause Occurrence)) (scopes : List (List Text)),
      Renames f (CatchClause.enclosedOption handler)
        (CatchClause.usesOption (CatchClause.mapOption f handler) scopes)
        (CatchClause.usesOption handler scopes)
  | none, _ => fun _ => rfl
  | some (.mk _ body), scopes =>
    (Renames.nil.scope (handlerNames_map scopes) (Statement.usesList_map body) :)

theorem SwitchCase.usesList_map :
    ∀ (cases : List (SwitchCase Occurrence)) (scopes : List (List Text)),
      Renames f (SwitchCase.enclosedList cases)
        (SwitchCase.usesList (SwitchCase.mapList f cases) scopes) (SwitchCase.usesList cases scopes)
  | [], _ => fun _ => rfl
  | .mk none consequent :: cases, scopes =>
    (Statement.usesList_map consequent scopes).append (SwitchCase.usesList_map cases scopes)
  | .mk (some test) consequent :: cases, scopes =>
    ((test.uses_map scopes).append (Statement.usesList_map consequent scopes)).append
      (SwitchCase.usesList_map cases scopes)

theorem Statement.uses_map : ∀ (s : Statement Occurrence) (scopes : List (List Text)),
    Renames f s.enclosed ((s.map f).uses scopes) (s.uses scopes)
  | .declaration value, scopes => value.uses_map scopes
  | .exportDeclaration _, _ | .exportList _ _, _ | .importList _ _, _ => fun _ => rfl
  | .expression value, scopes | .throw value, scopes => value.uses_map scopes
  | .block body, scopes =>
    (Renames.nil.scope (blockNames_map scopes) (Statement.usesList_map body) :)
  | .return argument, scopes => Expression.usesOption_map argument scopes
  | .if test consequent none, scopes =>
    ((test.uses_map scopes).append (consequent.uses_map scopes)).append fun _ => rfl
  | .if test consequent (some alternate), scopes =>
    ((test.uses_map scopes).append (consequent.uses_map scopes)).append (alternate.uses_map scopes)
  | .for none test update body, scopes =>
    ((Expression.usesOption_map test scopes).append
      (Expression.usesOption_map update scopes)).append
      (body.uses_map scopes)
  | .for (some init) test update body, scopes => fun kept => by
    simp only [Statement.enclosed, keeps_append] at kept
    obtain ⟨⟨⟨⟨lexicals_kept, init_kept⟩, test_kept⟩, update_kept⟩, body_kept⟩ := kept
    simp only [Statement.map, Statement.uses, List.map_append, LoopHead.scopes_map lexicals_kept,
      init.uses_map _ init_kept, Expression.usesOption_map test _ test_kept,
      Expression.usesOption_map update _ update_kept, body.uses_map _ body_kept]
  | .forIn left right body, scopes | .forOf left right body, scopes => fun kept => by
    simp only [Statement.enclosed, keeps_append] at kept
    obtain ⟨⟨⟨lexicals_kept, left_kept⟩, right_kept⟩, body_kept⟩ := kept
    simp only [Statement.map, Statement.uses, List.map_append, LoopHead.scopes_map lexicals_kept,
      left.uses_map _ left_kept, right.uses_map _ right_kept, body.uses_map _ body_kept]
  | .while test body, scopes | .doWhile body test, scopes =>
    (test.uses_map scopes).append (body.uses_map scopes)
  | .break, _ | .continue, _ | .empty, _ => fun _ => rfl
  | .try block handler finalizer, scopes =>
    ((Renames.nil.scope (blockNames_map scopes) (Statement.usesList_map block)).append
      (CatchClause.usesOption_map handler scopes)).append
      (Statement.usesFinalizer_map finalizer scopes)
  | .switch discriminant cases, scopes =>
    ((discriminant.uses_map scopes).scope
      (fun kept => congrArg (· :: scopes) (caseNames_map kept)) (SwitchCase.usesList_map cases) :)

theorem Statement.usesList_map :
    ∀ (ss : List (Statement Occurrence)) (scopes : List (List Text)),
      Renames f (Statement.enclosedList ss) (Statement.usesList (Statement.mapList f ss) scopes)
        (Statement.usesList ss scopes)
  | [], _ => fun _ => rfl
  | s :: ss, scopes => (s.uses_map scopes).append (Statement.usesList_map ss scopes)

theorem Statement.usesFinalizer_map :
    ∀ (body : Option (List (Statement Occurrence))) (scopes : List (List Text)),
      Renames f (Statement.enclosedFinalizer body)
        (Statement.usesFinalizer (Statement.mapOptionList f body) scopes)
        (Statement.usesFinalizer body scopes)
  | none, _ => fun _ => rfl
  | some body, scopes =>
    (Renames.nil.scope (blockNames_map scopes) (Statement.usesList_map body) :)

end

/-! ## Declarations and uses of renamed modules -/

/-- The binders inside a module, as opposed to the names it declares. -/
def Program.enclosed (program : Program Occurrence) : List Occurrence :=
  Statement.enclosedList program.body

def Program.definitions (program : Program Occurrence) : List Definition :=
  program.body.flatMap Statement.definitions

def Definition.map (f : Occurrence → Occurrence) (d : Definition) : Definition :=
  ⟨d.kind, f d.occurrence⟩

def Declarator.ownedUses (d : Declarator Occurrence) : List OwnedUse :=
  (Expression.usesOption d.init []).map fun u => ⟨some d.name.name, u⟩

/-- A use whose occurrence is renamed, in the code of a declaration under another name. -/
def OwnedUse.map (f : Occurrence → Occurrence) (declared : Text → Text) (u : OwnedUse) :
    OwnedUse :=
  ⟨u.owner.map declared, u.use.map f⟩

/-- A function of occurrences gives the declared names of a module their new names. -/
def Declares (f : Occurrence → Occurrence) (declared : Text → Text)
    (definitions : List Definition) : Prop :=
  ∀ d ∈ definitions, (f d.occurrence).name = declared d.occurrence.name

theorem value_definitions (declarators : List (Declarator Occurrence)) :
    (declarators.map fun d => (⟨.value, d.name⟩ : Definition)) =
      (declarators.map Declarator.name).map (Definition.mk .value) :=
  List.map_map.symm

theorem Declaration.definitions_map (d : Declaration Occurrence) :
    (d.map f).definitions = d.definitions.map (Definition.map f) := by
  match d with
  | .function _ _ _ => rfl
  | .variables _ declarators =>
    rw [Declaration.map, Declaration.definitions, Declaration.definitions, value_definitions,
      value_definitions, Declarator.mapList_names, List.map_map (g := Definition.map f),
      List.map_map]
    rfl

/-- The definitions of a statement that is neither a declaration nor an import are its variables. -/
theorem hoisted_definitions (s : Statement Occurrence) :
    (s.hoisted.map fun d => (⟨.value, d.name⟩ : Definition)) =
      s.vars.map (Definition.mk .value) := by
  rw [value_definitions, Statement.hoisted_names]

theorem hoisted_definitions_map (s : Statement Occurrence) :
    ((s.map f).hoisted.map fun d => (⟨.value, d.name⟩ : Definition)) =
      (s.hoisted.map fun d => (⟨.value, d.name⟩ : Definition)).map (Definition.map f) := by
  rw [hoisted_definitions, hoisted_definitions, Statement.vars_map, List.map_map, List.map_map]
  rfl

theorem Statement.definitions_map (s : Statement Occurrence) :
    (s.map f).definitions = s.definitions.map (Definition.map f) := by
  cases s with
  | declaration value | exportDeclaration value => exact Declaration.definitions_map value
  | importList specifiers =>
    simp only [Statement.map, Statement.definitions, List.map_map]
    rfl
  | «if» _ _ alternate => cases alternate <;> exact hoisted_definitions_map _
  | «for» init => cases init <;> exact hoisted_definitions_map _
  | _ => exact hoisted_definitions_map _

theorem Program.definitions_map (program : Program Occurrence) :
    (program.map f).definitions = program.definitions.map (Definition.map f) := by
  obtain ⟨body⟩ := program
  induction body with
  | nil => rfl
  | cons s ss ih =>
    simp only [Program.definitions, Program.map] at ih ⊢
    simp only [Statement.mapList, List.flatMap_cons, List.map_append, Statement.definitions_map, ih]

section OwnedUses

variable {declared : Text → Text}

theorem Declarator.ownedUses_map {d : Declarator Occurrence}
    (kept : Keeps f (Expression.enclosedOption d.init))
    (declares : (f d.name).name = declared d.name.name) :
    (d.map f).ownedUses = d.ownedUses.map (OwnedUse.map f declared) := by
  obtain ⟨name, init⟩ := d
  have mapped : Declarator.map f (.mk name init) = .mk (f name) (Expression.mapOption f init) := by
    cases init <;> rfl
  have same : (f name).name = declared name.name := declares
  rw [mapped, Declarator.ownedUses, Declarator.ownedUses, Declarator.init, Declarator.init,
    Declarator.name, Declarator.name, Expression.usesOption_map init [] kept, same, List.map_map,
    List.map_map]
  rfl

theorem Declarator.ownedUsesList_map :
    ∀ declarators : List (Declarator Occurrence), Keeps f (Declarator.enclosedList declarators) →
      Declares f declared (declarators.map fun d => ⟨.value, d.name⟩) →
      (Declarator.mapList f declarators).flatMap Declarator.ownedUses =
        (declarators.flatMap Declarator.ownedUses).map (OwnedUse.map f declared)
  | [], _, _ => rfl
  | .mk name init :: ds, kept, declares => by
    simp only [Declarator.enclosedList, keeps_append] at kept
    obtain ⟨head_kept, tail_kept⟩ := kept
    have tail := Declarator.ownedUsesList_map ds tail_kept fun d member =>
      declares d (List.mem_cons_of_mem _ member)
    have head := Declarator.ownedUses_map (d := .mk name init) head_kept
      (declares ⟨.value, name⟩ List.mem_cons_self)
    rw [Declarator.mapList, List.flatMap_cons, List.flatMap_cons, List.map_append, head, tail]

theorem Declaration.ownedUses_map (d : Declaration Occurrence) (kept : Keeps f d.enclosed)
    (declares : Declares f declared d.definitions) :
    (d.map f).ownedUses = d.ownedUses.map (OwnedUse.map f declared) := by
  match d with
  | .variables _ declarators => exact Declarator.ownedUsesList_map declarators kept declares
  | .function name params body =>
    have same : (f name).name = declared name.name := declares ⟨.function, name⟩ (by
      simp [Declaration.definitions])
    have uses := Declaration.uses_map (.function name params body) [] kept
    simp only [Declaration.map] at uses
    simp only [Declaration.map, Declaration.ownedUses, uses, same, List.map_map]
    rfl

theorem Statement.ownedUses_map (s : Statement Occurrence) (kept : Keeps f s.enclosed)
    (declares : Declares f declared s.definitions) :
    (s.map f).ownedUses = s.ownedUses.map (OwnedUse.map f declared) := by
  have plain : (((s.map f).uses []).map fun u => (⟨none, u⟩ : OwnedUse)) =
      ((s.uses []).map fun u => (⟨none, u⟩ : OwnedUse)).map (OwnedUse.map f declared) := by
    rw [Statement.uses_map s [] kept, List.map_map, List.map_map]
    rfl
  cases s with
  | declaration value | exportDeclaration value =>
    exact Declaration.ownedUses_map value kept declares
  | exportList specifiers source =>
    cases source with
    | none =>
      simp only [Statement.map, Statement.ownedUses, List.map_map]
      rfl
    | some => exact plain
  | «if» _ _ alternate => cases alternate <;> exact plain
  | «for» init => cases init <;> exact plain
  | _ => exact plain

theorem Program.ownedUses_map (program : Program Occurrence) (kept : Keeps f program.enclosed)
    (declares : Declares f declared program.definitions) :
    (program.map f).ownedUses = program.ownedUses.map (OwnedUse.map f declared) := by
  obtain ⟨body⟩ := program
  induction body with
  | nil => rfl
  | cons s ss ih =>
    simp only [Program.enclosed, Statement.enclosedList, keeps_append] at kept
    have tail := ih kept.2 fun d member =>
      declares d (List.mem_append_right s.definitions member)
    have head := Statement.ownedUses_map s kept.1 fun d member =>
      declares d (List.mem_append_left _ member)
    simp only [Program.ownedUses, Program.map] at tail ⊢
    simp only [Statement.mapList, List.flatMap_cons, List.map_append, head, tail]

end OwnedUses

end LibraryDescriptor
