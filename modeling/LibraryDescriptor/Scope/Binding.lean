import LibraryDescriptor.Syntax.Occurrence

/-!
# Bindings

Which names a function, a block or a module binds.

* `Statement.hoisted` — the `var` declarators of a statement, at any depth outside functions; they
  belong to the nearest function or to the module.
* `lexicalNames` — the `let`, `const` and function names that a block binds directly.
* `headNames`, `bodyNames` — the names that a function binds by its head, and those that its body
  adds.
* `LoopHead.scopes`, `caseNames` — the names of the other scopes.
-/

namespace LibraryDescriptor

variable {ν : Type}

/-! ## Hoisted variables -/

def hoistedDeclarators (kind : VariableKind) (declarators : List (Declarator ν)) :
    List (Declarator ν) :=
  if kind = .var then declarators else []

def Declaration.hoisted : Declaration ν → List (Declarator ν)
  | .function _ _ _ => []
  | .variables kind declarators => hoistedDeclarators kind declarators

def LoopHead.hoisted : LoopHead ν → List (Declarator ν)
  | .variables kind declarators => hoistedDeclarators kind declarators
  | .expression _ => []

mutual

/-- The `var` declarators of a statement, outside nested functions. -/
def Statement.hoisted : Statement ν → List (Declarator ν)
  | .declaration value => value.hoisted
  | .block body => Statement.hoistedList body
  | .if _ consequent none => consequent.hoisted
  | .if _ consequent (some alternate) => consequent.hoisted ++ alternate.hoisted
  | .for none _ _ body => body.hoisted
  | .for (some init) _ _ body => init.hoisted ++ body.hoisted
  | .forIn left _ body => left.hoisted ++ body.hoisted
  | .forOf left _ body => left.hoisted ++ body.hoisted
  | .while _ body => body.hoisted
  | .doWhile body _ => body.hoisted
  | .try block handler finalizer =>
    Statement.hoistedList block ++ CatchClause.hoistedOption handler ++
      Statement.hoistedFinalizer finalizer
  | .switch _ cases => SwitchCase.hoistedList cases
  | .exportDeclaration _ | .exportList _ _ | .importList _ _ | .expression _ | .return _
  | .break | .continue | .throw _ | .empty => []

def Statement.hoistedList : List (Statement ν) → List (Declarator ν)
  | [] => []
  | s :: ss => s.hoisted ++ Statement.hoistedList ss

def Statement.hoistedFinalizer : Option (List (Statement ν)) → List (Declarator ν)
  | none => []
  | some body => Statement.hoistedList body

def CatchClause.hoistedOption : Option (CatchClause ν) → List (Declarator ν)
  | none => []
  | some (.mk _ body) => Statement.hoistedList body

def SwitchCase.hoistedList : List (SwitchCase ν) → List (Declarator ν)
  | [] => []
  | .mk _ consequent :: cases => Statement.hoistedList consequent ++ SwitchCase.hoistedList cases

end

/-! ## Names of scopes -/

def Statement.lexicalNames : Statement Occurrence → List Text
  | .declaration (.function name _ _) => [name.name]
  | .declaration (.variables kind declarators) =>
    if kind = .var then [] else declarators.map (·.name.name)
  | _ => []

def lexicalNames (body : List (Statement Occurrence)) : List Text :=
  body.flatMap Statement.lexicalNames

/-- The names that cases of a `switch` statement bind directly, all in one scope. -/
def caseNames (cases : List (SwitchCase Occurrence)) : List Text :=
  cases.flatMap fun | .mk _ consequent => lexicalNames consequent

def headNames (self : Option Occurrence) (params : List Occurrence) (isArrow : Bool) : List Text :=
  params.map (·.name) ++ (self.map (·.name)).toList ++
    if isArrow then [] else [Text.ofString "arguments"]

def bodyNames (body : List (Statement Occurrence)) : List Text :=
  (Statement.hoistedList body).map (·.name.name) ++ lexicalNames body

/-- The scopes that a loop head adds: one for `let` and `const`, none otherwise. -/
def LoopHead.scopes : LoopHead Occurrence → List (List Text)
  | .variables kind declarators =>
    if kind = .var then [] else [declarators.map (·.name.name)]
  | .expression _ => []

end LibraryDescriptor
