import LibraryDescriptor.Scope.Binding

/-!
# Uses of names

A use is an occurrence in the place of an expression, with the scopes around it up to, and without,
the module. Property names, declared names and labels of exports are no uses.

`Statement.uses` lists the uses of a statement; the test of a loop comes before its body.
-/

namespace LibraryDescriptor

/-- An occurrence in the place of an expression. -/
structure Use where
  occurrence : Occurrence
  /-- The names of the scopes inside the module, the innermost first. -/
  scopes : List (List Text)

namespace Use

def name (u : Use) : Text := u.occurrence.name

def isLocal (u : Use) : Bool := u.scopes.any (·.contains u.name)

end Use

/-!
## Uses of trees

`uses` walks through a part of a tree that stands inside `scopes`, and adds a scope where the part
opens one.
-/

mutual

/-- The uses of an expression inside `scopes`. -/
def Expression.uses : Expression Occurrence → List (List Text) → List Use
  | .identifier name, scopes => [⟨name, scopes⟩]
  | .literal _ _, _ | .this, _ => []
  | .array elements, scopes => Expression.usesElements elements scopes
  | .object properties, scopes => Property.usesList properties scopes
  | .function name params body, scopes =>
    Statement.usesList body ((headNames name params false ++ bodyNames body) :: scopes)
  | .arrow params body, scopes => body.uses (headNames none params true :: scopes)
  | .arrowBlock params body, scopes =>
    Statement.usesList body ((headNames none params true ++ bodyNames body) :: scopes)
  | .unary _ argument, scopes => argument.uses scopes
  | .update _ _ argument, scopes => argument.uses scopes
  | .binary _ left right, scopes => left.uses scopes ++ right.uses scopes
  | .logical _ left right, scopes => left.uses scopes ++ right.uses scopes
  | .assignment _ left right, scopes => left.uses scopes ++ right.uses scopes
  | .conditional test consequent alternate, scopes =>
    test.uses scopes ++ consequent.uses scopes ++ alternate.uses scopes
  | .call callee arguments, scopes =>
    callee.uses scopes ++ Expression.usesList arguments scopes
  | .new callee arguments, scopes => callee.uses scopes ++ Expression.usesList arguments scopes
  | .member object property computed, scopes =>
    object.uses scopes ++ if computed then property.uses scopes else []
  | .sequence expressions, scopes => Expression.usesList expressions scopes

def Expression.usesList : List (Expression Occurrence) → List (List Text) → List Use
  | [], _ => []
  | e :: es, scopes => e.uses scopes ++ Expression.usesList es scopes

def Expression.usesElements :
    List (Option (Expression Occurrence)) → List (List Text) → List Use
  | [], _ => []
  | none :: es, scopes => Expression.usesElements es scopes
  | some e :: es, scopes => e.uses scopes ++ Expression.usesElements es scopes

def Expression.usesOption : Option (Expression Occurrence) → List (List Text) → List Use
  | none, _ => []
  | some e, scopes => e.uses scopes

def Property.usesList : List (Property Occurrence) → List (List Text) → List Use
  | [], _ => []
  | .mk key value computed _ _ :: ps, scopes =>
    (if computed then key.uses scopes else []) ++ value.uses scopes ++
      Property.usesList ps scopes

def Declarator.usesList : List (Declarator Occurrence) → List (List Text) → List Use
  | [], _ => []
  | .mk _ init :: ds, scopes => Expression.usesOption init scopes ++ Declarator.usesList ds scopes

def LoopHead.uses : LoopHead Occurrence → List (List Text) → List Use
  | .variables _ declarators, scopes => Declarator.usesList declarators scopes
  | .expression value, scopes => value.uses scopes

/-- The uses of a declaration that is not a module item. -/
def Declaration.uses : Declaration Occurrence → List (List Text) → List Use
  | .function _ params body, scopes =>
    Statement.usesList body ((headNames none params false ++ bodyNames body) :: scopes)
  | .variables _ declarators, scopes => Declarator.usesList declarators scopes

def CatchClause.usesOption : Option (CatchClause Occurrence) → List (List Text) → List Use
  | none, _ => []
  | some (.mk param body), scopes =>
    Statement.usesList body (lexicalNames body :: (param.map (·.name)).toList :: scopes)

def SwitchCase.usesList : List (SwitchCase Occurrence) → List (List Text) → List Use
  | [], _ => []
  | .mk test consequent :: cases, scopes =>
    Expression.usesOption test scopes ++ Statement.usesList consequent scopes ++
      SwitchCase.usesList cases scopes

def Statement.uses : Statement Occurrence → List (List Text) → List Use
  | .declaration value, scopes => value.uses scopes
  | .exportDeclaration _, _ | .exportList _ _, _ | .importList _ _, _ => []
  | .expression value, scopes => value.uses scopes
  | .block body, scopes => Statement.usesList body (lexicalNames body :: scopes)
  | .return argument, scopes => Expression.usesOption argument scopes
  | .if test consequent alternate, scopes =>
    test.uses scopes ++ consequent.uses scopes ++ Statement.usesOption alternate scopes
  | .for none test update body, scopes =>
    Expression.usesOption test scopes ++ Expression.usesOption update scopes ++ body.uses scopes
  | .for (some init) test update body, scopes =>
    init.uses (init.scopes ++ scopes) ++ Expression.usesOption test (init.scopes ++ scopes) ++
      Expression.usesOption update (init.scopes ++ scopes) ++ body.uses (init.scopes ++ scopes)
  | .forIn left right body, scopes =>
    left.uses (left.scopes ++ scopes) ++ right.uses (left.scopes ++ scopes) ++
      body.uses (left.scopes ++ scopes)
  | .forOf left right body, scopes =>
    left.uses (left.scopes ++ scopes) ++ right.uses (left.scopes ++ scopes) ++
      body.uses (left.scopes ++ scopes)
  | .while test body, scopes => test.uses scopes ++ body.uses scopes
  | .doWhile body test, scopes => test.uses scopes ++ body.uses scopes
  | .break, _ | .continue, _ | .empty, _ => []
  | .throw argument, scopes => argument.uses scopes
  | .try block handler finalizer, scopes =>
    Statement.usesList block (lexicalNames block :: scopes) ++
      CatchClause.usesOption handler scopes ++ Statement.usesFinalizer finalizer scopes
  | .switch discriminant cases, scopes =>
    discriminant.uses scopes ++ SwitchCase.usesList cases (caseNames cases :: scopes)

def Statement.usesList : List (Statement Occurrence) → List (List Text) → List Use
  | [], _ => []
  | s :: ss, scopes => s.uses scopes ++ Statement.usesList ss scopes

def Statement.usesOption : Option (Statement Occurrence) → List (List Text) → List Use
  | none, _ => []
  | some s, scopes => s.uses scopes

def Statement.usesFinalizer :
    Option (List (Statement Occurrence)) → List (List Text) → List Use
  | none, _ => []
  | some body, scopes => Statement.usesList body (lexicalNames body :: scopes)

end

end LibraryDescriptor
