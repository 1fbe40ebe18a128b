import LibraryDescriptor.Syntax.Occurrence

/-!
# All occurrences of a tree

* `Expression.occurrences`, … — every name of a tree, in the order of the source.
-/

namespace LibraryDescriptor

variable {ν : Type}

/-! ## Occurrences -/

mutual

/-- The names in an expression, in the order of the source. -/
def Expression.occurrences : Expression ν → List ν
  | .identifier name => [name]
  | .literal _ _ | .this => []
  | .array elements => Expression.occurrencesElements elements
  | .object properties => Property.occurrencesList properties
  | .function name params body => name.toList ++ params ++ Statement.occurrencesList body
  | .arrow params body => params ++ body.occurrences
  | .arrowBlock params body => params ++ Statement.occurrencesList body
  | .unary _ argument | .update _ _ argument => argument.occurrences
  | .binary _ left right | .logical _ left right | .assignment _ left right =>
    left.occurrences ++ right.occurrences
  | .conditional test consequent alternate =>
    test.occurrences ++ consequent.occurrences ++ alternate.occurrences
  | .call callee arguments | .new callee arguments =>
    callee.occurrences ++ Expression.occurrencesList arguments
  | .member object property _ => object.occurrences ++ property.occurrences
  | .sequence expressions => Expression.occurrencesList expressions

def Expression.occurrencesList : List (Expression ν) → List ν
  | [] => []
  | e :: es => e.occurrences ++ Expression.occurrencesList es

def Expression.occurrencesElements : List (Option (Expression ν)) → List ν
  | [] => []
  | none :: es => Expression.occurrencesElements es
  | some e :: es => e.occurrences ++ Expression.occurrencesElements es

def Expression.occurrencesOption : Option (Expression ν) → List ν
  | none => []
  | some e => e.occurrences

def Property.occurrencesList : List (Property ν) → List ν
  | [] => []
  | .mk key value _ _ _ :: ps =>
    key.occurrences ++ value.occurrences ++ Property.occurrencesList ps

def Declarator.occurrencesList : List (Declarator ν) → List ν
  | [] => []
  | .mk name init :: ds =>
    name :: Expression.occurrencesOption init ++ Declarator.occurrencesList ds

def Declaration.occurrences : Declaration ν → List ν
  | .function name params body => name :: params ++ Statement.occurrencesList body
  | .variables _ declarators => Declarator.occurrencesList declarators

def LoopHead.occurrences : LoopHead ν → List ν
  | .variables _ declarators => Declarator.occurrencesList declarators
  | .expression value => value.occurrences

def LoopHead.occurrencesOption : Option (LoopHead ν) → List ν
  | none => []
  | some head => head.occurrences

def CatchClause.occurrencesOption : Option (CatchClause ν) → List ν
  | none => []
  | some (.mk param body) => param.toList ++ Statement.occurrencesList body

def SwitchCase.occurrencesList : List (SwitchCase ν) → List ν
  | [] => []
  | .mk test consequent :: cases =>
    Expression.occurrencesOption test ++ Statement.occurrencesList consequent ++
      SwitchCase.occurrencesList cases

def Statement.occurrences : Statement ν → List ν
  | .declaration value | .exportDeclaration value => value.occurrences
  | .exportList specifiers _ => specifiers.flatMap fun s => [s.bound, s.exported]
  | .importList specifiers _ => specifiers.flatMap fun s => [s.imported, s.bound]
  | .expression value | .throw value => value.occurrences
  | .block body => Statement.occurrencesList body
  | .return argument => Expression.occurrencesOption argument
  | .if test consequent alternate =>
    test.occurrences ++ consequent.occurrences ++ Statement.occurrencesOption alternate
  | .for init test update body =>
    LoopHead.occurrencesOption init ++ Expression.occurrencesOption test ++
      Expression.occurrencesOption update ++ body.occurrences
  | .forIn left right body | .forOf left right body =>
    left.occurrences ++ right.occurrences ++ body.occurrences
  | .while test body => test.occurrences ++ body.occurrences
  | .doWhile body test => body.occurrences ++ test.occurrences
  | .break | .continue | .empty => []
  | .try block handler finalizer =>
    Statement.occurrencesList block ++ CatchClause.occurrencesOption handler ++
      Statement.occurrencesFinalizer finalizer
  | .switch discriminant cases => discriminant.occurrences ++ SwitchCase.occurrencesList cases

def Statement.occurrencesList : List (Statement ν) → List ν
  | [] => []
  | s :: ss => s.occurrences ++ Statement.occurrencesList ss

def Statement.occurrencesOption : Option (Statement ν) → List ν
  | none => []
  | some s => s.occurrences

def Statement.occurrencesFinalizer : Option (List (Statement ν)) → List ν
  | none => []
  | some body => Statement.occurrencesList body

end

def Program.occurrences (program : Program ν) : List ν :=
  Statement.occurrencesList program.body

theorem mem_occurrencesList {o : ν} {body : List (Statement ν)} :
    o ∈ Statement.occurrencesList body ↔ ∃ s ∈ body, o ∈ s.occurrences := by
  induction body with
  | nil => simp [Statement.occurrencesList]
  | cons s ss ih => simp [Statement.occurrencesList, ih]

/-- Renaming a module renames its statements. -/
theorem Program.body_map {μ : Type} (f : ν → μ) (program : Program ν) :
    (program.map f).body = program.body.map (Statement.map f) := by
  obtain ⟨body⟩ := program
  induction body with
  | nil => rfl
  | cons s ss ih => exact congrArg (s.map f :: ·) ih

theorem Program.erase_mem_body {program : Program Occurrence} {s : Statement Occurrence}
    (member : s ∈ program.body) : s.erase ∈ program.erase.body := by
  rw [Program.erase, Program.body_map]
  exact List.mem_map_of_mem member

end LibraryDescriptor
