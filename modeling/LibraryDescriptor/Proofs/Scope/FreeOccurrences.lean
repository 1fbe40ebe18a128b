import LibraryDescriptor.Proofs.Scope.Binders
import Mathlib.Tactic.Tauto

/-!
# Free occurrences, bottom up

The occurrences of a tree that no binder inside the tree captures. The definition follows the
syntax from the leaves: a scope takes away the occurrences of the names it binds.

* `Expression.free`, `Statement.free` — the free occurrences, in the order of the walk.
* `LeavesOpen` — of some uses, those that no scope binds are given occurrences.
* `Expression.free_of_uses` — they are the uses that no inner scope binds.
-/

namespace LibraryDescriptor

/-- The occurrences of names other than the given ones. -/
def unbound (names : List Text) (occurrences : List Occurrence) : List Occurrence :=
  occurrences.filter fun o => !names.contains o.name

/-- The names that a function binds: its parameters, its own name as a function expression, the
variables and the declarations of its body, and the list of its arguments. -/
def functionScope (self : Option Occurrence) (params : List Occurrence)
    (body : List (Statement Occurrence)) : List Text :=
  Text.ofString "arguments" ::
    (self.toList ++ params ++ Statement.varsList body ++
      Statement.lexicalsList body).map Occurrence.name

def arrowScope (params : List Occurrence) (body : List (Statement Occurrence)) : List Text :=
  (params ++ Statement.varsList body ++ Statement.lexicalsList body).map Occurrence.name

def blockScope (body : List (Statement Occurrence)) : List Text :=
  (Statement.lexicalsList body).map Occurrence.name

mutual

/-- The free occurrences of an expression. -/
def Expression.free : Expression Occurrence → List Occurrence
  | .identifier name => [name]
  | .literal _ _ | .this => []
  | .array elements => Expression.freeElements elements
  | .object properties => Property.freeList properties
  | .function name params body => unbound (functionScope name params body) (Statement.freeList body)
  | .arrow params body => unbound (params.map Occurrence.name) body.free
  | .arrowBlock params body => unbound (arrowScope params body) (Statement.freeList body)
  | .unary _ argument | .update _ _ argument => argument.free
  | .binary _ left right | .logical _ left right | .assignment _ left right =>
    left.free ++ right.free
  | .conditional test consequent alternate => test.free ++ consequent.free ++ alternate.free
  | .call callee arguments | .new callee arguments => callee.free ++ Expression.freeList arguments
  | .member object property computed => object.free ++ if computed then property.free else []
  | .sequence expressions => Expression.freeList expressions

def Expression.freeList : List (Expression Occurrence) → List Occurrence
  | [] => []
  | e :: es => e.free ++ Expression.freeList es

def Expression.freeElements : List (Option (Expression Occurrence)) → List Occurrence
  | [] => []
  | none :: es => Expression.freeElements es
  | some e :: es => e.free ++ Expression.freeElements es

def Expression.freeOption : Option (Expression Occurrence) → List Occurrence
  | none => []
  | some e => e.free

/-- The free occurrences of the entries of an object; a key is one only if it is computed. -/
def Property.freeList : List (Property Occurrence) → List Occurrence
  | [] => []
  | .mk key value computed _ _ :: ps =>
    (if computed then key.free else []) ++ value.free ++ Property.freeList ps

def Declarator.freeList : List (Declarator Occurrence) → List Occurrence
  | [] => []
  | .mk _ init :: ds => Expression.freeOption init ++ Declarator.freeList ds

def Declaration.free : Declaration Occurrence → List Occurrence
  | .function _ params body => unbound (functionScope none params body) (Statement.freeList body)
  | .variables _ declarators => Declarator.freeList declarators

def LoopHead.free : LoopHead Occurrence → List Occurrence
  | .variables _ declarators => Declarator.freeList declarators
  | .expression value => value.free

/-- The free occurrences of an optional handler; its parameter binds over the whole of it. -/
def CatchClause.freeOption : Option (CatchClause Occurrence) → List Occurrence
  | none => []
  | some (.mk param body) =>
    unbound (param.toList.map Occurrence.name) (unbound (blockScope body) (Statement.freeList body))

/-- The free occurrences of cases, apart from what their `switch` statement binds. -/
def SwitchCase.freeList : List (SwitchCase Occurrence) → List Occurrence
  | [] => []
  | .mk test consequent :: cases =>
    Expression.freeOption test ++ Statement.freeList consequent ++ SwitchCase.freeList cases

/-- The free occurrences of a statement, apart from what the block around it binds. Imports and
exports are module items and have none. -/
def Statement.free : Statement Occurrence → List Occurrence
  | .declaration value => value.free
  | .exportDeclaration _ | .exportList _ _ | .importList _ _ => []
  | .expression value | .throw value => value.free
  | .block body => unbound (blockScope body) (Statement.freeList body)
  | .return argument => Expression.freeOption argument
  | .if test consequent alternate =>
    test.free ++ consequent.free ++ Statement.freeOption alternate
  | .for none test update body =>
    Expression.freeOption test ++ Expression.freeOption update ++ body.free
  | .for (some init) test update body =>
    unbound (init.lexicals.map Occurrence.name)
      (init.free ++ Expression.freeOption test ++ Expression.freeOption update ++ body.free)
  | .forIn left right body | .forOf left right body =>
    unbound (left.lexicals.map Occurrence.name) (left.free ++ right.free ++ body.free)
  | .while test body | .doWhile body test => test.free ++ body.free
  | .break | .continue | .empty => []
  | .try block handler finalizer =>
    unbound (blockScope block) (Statement.freeList block) ++ CatchClause.freeOption handler ++
      Statement.freeFinalizer finalizer
  | .switch discriminant cases =>
    discriminant.free ++
      unbound ((SwitchCase.lexicalsList cases).map Occurrence.name) (SwitchCase.freeList cases)

/-- The free occurrences of statements, apart from what the block around them binds. -/
def Statement.freeList : List (Statement Occurrence) → List Occurrence
  | [] => []
  | s :: ss => s.free ++ Statement.freeList ss

def Statement.freeOption : Option (Statement Occurrence) → List Occurrence
  | none => []
  | some s => s.free

def Statement.freeFinalizer : Option (List (Statement Occurrence)) → List Occurrence
  | none => []
  | some body => unbound (blockScope body) (Statement.freeList body)

end

/-! ## Free occurrences are the uses that no inner scope binds -/

/-- The occurrences of the uses that no scope inside the module binds. -/
def openOccurrences (uses : List Use) : List Occurrence :=
  (uses.filter fun u => !u.isLocal).map Use.occurrence

@[simp] theorem openOccurrences_append (us vs : List Use) :
    openOccurrences (us ++ vs) = openOccurrences us ++ openOccurrences vs := by
  simp [openOccurrences]

def outside (scopes : List (List Text)) (occurrences : List Occurrence) : List Occurrence :=
  occurrences.filter fun o => !scopes.any (·.contains o.name)

@[simp] theorem outside_append (scopes : List (List Text)) (os ps : List Occurrence) :
    outside scopes (os ++ ps) = outside scopes os ++ outside scopes ps :=
  List.filter_append ..

@[simp] theorem outside_none (os : List Occurrence) : outside [] os = os :=
  List.filter_eq_self.mpr fun _ _ => rfl

theorem outside_cons {names names' : List Text} (same : ∀ n, n ∈ names ↔ n ∈ names')
    (scopes : List (List Text)) (os : List Occurrence) :
    outside (names :: scopes) os = outside scopes (unbound names' os) := by
  rw [outside, outside, unbound, List.filter_filter]
  refine List.filter_congr fun o _ => ?_
  have agree : names.contains o.name = names'.contains o.name := by
    rw [Bool.eq_iff_iff, List.contains_iff_mem, List.contains_iff_mem, same]
  rw [List.any_cons, agree, Bool.not_or, Bool.and_comm]

/-- Of uses inside some scopes, those that no scope binds are occurrences that the scopes leave. -/
abbrev LeavesOpen (scopes : List (List Text)) (uses : List Use) (free : List Occurrence) : Prop :=
  openOccurrences uses = outside scopes free

namespace LeavesOpen

variable {scopes : List (List Text)} {us vs : List Use} {os ps : List Occurrence}

theorem append (first : LeavesOpen scopes us os) (second : LeavesOpen scopes vs ps) :
    LeavesOpen scopes (us ++ vs) (os ++ ps) := by
  rw [LeavesOpen, openOccurrences_append, outside_append, first, second]

theorem ite (computed : Bool) (leaves : LeavesOpen scopes us os) :
    LeavesOpen scopes (if computed then us else []) (if computed then os else []) := by
  cases computed with
  | true => exact leaves
  | false => rfl

/-- A scope of its own. -/
theorem scope {names names' : List Text} (same : ∀ n, n ∈ names ↔ n ∈ names')
    (inner : LeavesOpen (names :: scopes) us os) : LeavesOpen scopes us (unbound names' os) :=
  inner.trans (outside_cons same scopes os)

theorem head {head : LoopHead Occurrence} (inner : LeavesOpen (head.scopes ++ scopes) us os) :
    LeavesOpen scopes us (unbound (head.lexicals.map Occurrence.name) os) := by
  rcases head.scopes_eq with ⟨none, binds⟩ | one
  · rw [none, List.nil_append] at inner
    rw [LeavesOpen, binds, inner]
    exact congrArg (outside scopes) (List.filter_eq_self.mpr fun _ _ => rfl).symm
  · rw [one, List.singleton_append] at inner
    exact inner.scope fun _ => Iff.rfl

theorem block {body : List (Statement Occurrence)}
    (inner : LeavesOpen (lexicalNames body :: scopes) us os) :
    LeavesOpen scopes us (unbound (blockScope body) os) :=
  inner.scope fun n => by rw [lexicalNames_eq, blockScope]

end LeavesOpen

theorem mem_functionNames (self : Option Occurrence) (params : List Occurrence)
    (body : List (Statement Occurrence)) (n : Text) :
    n ∈ headNames self params false ++ bodyNames body ↔ n ∈ functionScope self params body := by
  cases self <;>
    simp only [headNames, bodyNames_eq, functionScope, Option.map_none, Option.map_some,
      Option.toList_none, Option.toList_some, List.map_append, List.map_cons, List.map_nil,
      List.mem_append, List.mem_cons, List.not_mem_nil, Bool.false_eq_true, if_false] <;>
    tauto

theorem mem_arrowParams (params : List Occurrence) (n : Text) :
    n ∈ headNames none params true ↔ n ∈ params.map Occurrence.name := by
  simp [headNames]

theorem mem_arrowNames (params : List Occurrence) (body : List (Statement Occurrence)) (n : Text) :
    n ∈ headNames none params true ++ bodyNames body ↔ n ∈ arrowScope params body := by
  simp [headNames, bodyNames_eq, arrowScope]

mutual

theorem Expression.free_of_uses : ∀ (e : Expression Occurrence) (scopes : List (List Text)),
    LeavesOpen scopes (e.uses scopes) e.free
  | .identifier name, scopes => by
    cases local? : scopes.any (·.contains name.name) <;>
      simp only [LeavesOpen, Expression.uses, Expression.free, openOccurrences, outside,
        Use.isLocal, Use.name, List.filter_cons, List.filter_nil, local?, Bool.not_true,
        Bool.not_false, if_true, Bool.false_eq_true, if_false, List.map_cons, List.map_nil]
  | .literal _ _, _ | .this, _ => rfl
  | .array elements, scopes => Expression.freeElements_of_uses elements scopes
  | .object properties, scopes => Property.freeList_of_uses properties scopes
  | .function name params body, _ =>
    .scope (mem_functionNames name params body) (Statement.freeList_of_uses body _)
  | .arrow params body, _ => .scope (mem_arrowParams params) (body.free_of_uses _)
  | .arrowBlock params body, _ =>
    .scope (mem_arrowNames params body) (Statement.freeList_of_uses body _)
  | .unary _ argument, scopes | .update _ _ argument, scopes => argument.free_of_uses scopes
  | .binary _ left right, scopes | .logical _ left right, scopes
  | .assignment _ left right, scopes =>
    (left.free_of_uses scopes).append (right.free_of_uses scopes)
  | .conditional test consequent alternate, scopes =>
    ((test.free_of_uses scopes).append (consequent.free_of_uses scopes)).append
      (alternate.free_of_uses scopes)
  | .call callee arguments, scopes | .new callee arguments, scopes =>
    (callee.free_of_uses scopes).append (Expression.freeList_of_uses arguments scopes)
  | .member object property computed, scopes =>
    (object.free_of_uses scopes).append (.ite computed (property.free_of_uses scopes))
  | .sequence expressions, scopes => Expression.freeList_of_uses expressions scopes

theorem Expression.freeList_of_uses :
    ∀ (es : List (Expression Occurrence)) (scopes : List (List Text)),
      LeavesOpen scopes (Expression.usesList es scopes) (Expression.freeList es)
  | [], _ => rfl
  | e :: es, scopes => (e.free_of_uses scopes).append (Expression.freeList_of_uses es scopes)

theorem Expression.freeElements_of_uses :
    ∀ (es : List (Option (Expression Occurrence))) (scopes : List (List Text)),
      LeavesOpen scopes (Expression.usesElements es scopes) (Expression.freeElements es)
  | [], _ => rfl
  | none :: es, scopes => Expression.freeElements_of_uses es scopes
  | some e :: es, scopes =>
    (e.free_of_uses scopes).append (Expression.freeElements_of_uses es scopes)

theorem Expression.freeOption_of_uses :
    ∀ (e : Option (Expression Occurrence)) (scopes : List (List Text)),
      LeavesOpen scopes (Expression.usesOption e scopes) (Expression.freeOption e)
  | none, _ => rfl
  | some e, scopes => e.free_of_uses scopes

theorem Property.freeList_of_uses :
    ∀ (ps : List (Property Occurrence)) (scopes : List (List Text)),
      LeavesOpen scopes (Property.usesList ps scopes) (Property.freeList ps)
  | [], _ => rfl
  | .mk key value computed _ _ :: ps, scopes =>
    (LeavesOpen.append (.ite computed (key.free_of_uses scopes)) (value.free_of_uses scopes)).append
      (Property.freeList_of_uses ps scopes)

theorem Declarator.freeList_of_uses :
    ∀ (ds : List (Declarator Occurrence)) (scopes : List (List Text)),
      LeavesOpen scopes (Declarator.usesList ds scopes) (Declarator.freeList ds)
  | [], _ => rfl
  | .mk _ init :: ds, scopes =>
    (Expression.freeOption_of_uses init scopes).append (Declarator.freeList_of_uses ds scopes)

theorem Declaration.free_of_uses : ∀ (d : Declaration Occurrence) (scopes : List (List Text)),
    LeavesOpen scopes (d.uses scopes) d.free
  | .function _ params body, _ =>
    .scope (mem_functionNames none params body) (Statement.freeList_of_uses body _)
  | .variables _ declarators, scopes => Declarator.freeList_of_uses declarators scopes

theorem LoopHead.free_of_uses : ∀ (head : LoopHead Occurrence) (scopes : List (List Text)),
    LeavesOpen scopes (head.uses scopes) head.free
  | .variables _ declarators, scopes => Declarator.freeList_of_uses declarators scopes
  | .expression value, scopes => value.free_of_uses scopes

theorem CatchClause.freeOption_of_uses :
    ∀ (handler : Option (CatchClause Occurrence)) (scopes : List (List Text)),
      LeavesOpen scopes (CatchClause.usesOption handler scopes) (CatchClause.freeOption handler)
  | none, _ => rfl
  | some (.mk param body), scopes => by
    have inner := (Statement.freeList_of_uses body
      (lexicalNames body :: (param.map (·.name)).toList :: scopes)).block
    cases param <;> exact inner.scope fun _ => Iff.rfl

theorem SwitchCase.freeList_of_uses :
    ∀ (cases : List (SwitchCase Occurrence)) (scopes : List (List Text)),
      LeavesOpen scopes (SwitchCase.usesList cases scopes) (SwitchCase.freeList cases)
  | [], _ => rfl
  | .mk test consequent :: cases, scopes =>
    ((Expression.freeOption_of_uses test scopes).append
      (Statement.freeList_of_uses consequent scopes)).append
      (SwitchCase.freeList_of_uses cases scopes)

theorem Statement.free_of_uses : ∀ (s : Statement Occurrence) (scopes : List (List Text)),
    LeavesOpen scopes (s.uses scopes) s.free
  | .declaration value, scopes => value.free_of_uses scopes
  | .exportDeclaration _, _ | .exportList _ _, _ | .importList _ _, _ => rfl
  | .expression value, scopes | .throw value, scopes => value.free_of_uses scopes
  | .block body, _ => (Statement.freeList_of_uses body _).block
  | .return argument, scopes => Expression.freeOption_of_uses argument scopes
  | .if test consequent alternate, scopes =>
    ((test.free_of_uses scopes).append (consequent.free_of_uses scopes)).append
      (Statement.freeOption_of_uses alternate scopes)
  | .for none test update body, scopes =>
    ((Expression.freeOption_of_uses test scopes).append
      (Expression.freeOption_of_uses update scopes)).append (body.free_of_uses scopes)
  | .for (some init) test update body, _ =>
    .head ((((init.free_of_uses _).append (Expression.freeOption_of_uses test _)).append
      (Expression.freeOption_of_uses update _)).append (body.free_of_uses _))
  | .forIn left right body, _ | .forOf left right body, _ =>
    .head (((left.free_of_uses _).append (right.free_of_uses _)).append (body.free_of_uses _))
  | .while test body, scopes | .doWhile body test, scopes =>
    (test.free_of_uses scopes).append (body.free_of_uses scopes)
  | .break, _ | .continue, _ | .empty, _ => rfl
  | .try block handler finalizer, scopes =>
    ((Statement.freeList_of_uses block _).block.append
      (CatchClause.freeOption_of_uses handler scopes)).append
      (Statement.freeFinalizer_of_uses finalizer scopes)
  | .switch discriminant cases, scopes =>
    (discriminant.free_of_uses scopes).append
      (.scope (fun _ => by rw [caseNames_eq]) (SwitchCase.freeList_of_uses cases _))

theorem Statement.freeList_of_uses :
    ∀ (ss : List (Statement Occurrence)) (scopes : List (List Text)),
      LeavesOpen scopes (Statement.usesList ss scopes) (Statement.freeList ss)
  | [], _ => rfl
  | s :: ss, scopes => (s.free_of_uses scopes).append (Statement.freeList_of_uses ss scopes)

theorem Statement.freeOption_of_uses :
    ∀ (s : Option (Statement Occurrence)) (scopes : List (List Text)),
      LeavesOpen scopes (Statement.usesOption s scopes) (Statement.freeOption s)
  | none, _ => rfl
  | some s, scopes => s.free_of_uses scopes

theorem Statement.freeFinalizer_of_uses :
    ∀ (body : Option (List (Statement Occurrence))) (scopes : List (List Text)),
      LeavesOpen scopes (Statement.usesFinalizer body scopes) (Statement.freeFinalizer body)
  | none, _ => rfl
  | some body, _ => (Statement.freeList_of_uses body _).block

end

end LibraryDescriptor
