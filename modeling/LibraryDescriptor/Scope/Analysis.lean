import LibraryDescriptor.Scope.Use

/-!
# Scope analysis of a module

* `ModuleSymbol` — a name that the module declares, with its definitions.
* `Reference` — a use that means such a name, with the declaration whose code it is in and the names
  that are bound around it.
* `Program.analyze` — the symbols, the references and the names that are declared nowhere.
-/

namespace LibraryDescriptor

/-- What declares a name of a module. -/
inductive SymbolKind where
  | function | value | imported
  deriving DecidableEq

structure Definition where
  kind : SymbolKind
  occurrence : Occurrence
  deriving DecidableEq

structure ModuleSymbol where
  name : Text
  /-- The first declaration. -/
  first : Definition
  /-- Further declarations, in order. -/
  others : List Definition
  deriving DecidableEq

namespace ModuleSymbol

def definitions (s : ModuleSymbol) : List Definition := s.first :: s.others

/-- The kind of a symbol is that of its first declaration. -/
def kind (s : ModuleSymbol) : SymbolKind := s.first.kind

end ModuleSymbol

/-- A use that means a name of the module. -/
structure Reference where
  occurrence : Occurrence
  /-- The top-level declaration whose code the use is in. -/
  owner : Option Text
  /-- The names that the scopes around the use bind; under one of them it would mean another
  binding. -/
  shadowed : List Text
  deriving DecidableEq

def Reference.symbol (r : Reference) : Text := r.occurrence.name

/-- What is known about the names of a module. -/
structure ScopeAnalysis where
  /-- The declared names, in the order of their first declarations. -/
  symbols : List ModuleSymbol
  /-- The uses of declared names, in the order of the walk. -/
  references : List Reference
  /-- The used names that are declared nowhere, in ascending order. -/
  globals : List Text
  deriving DecidableEq

namespace ScopeAnalysis

def symbol? (a : ScopeAnalysis) (name : Text) : Option ModuleSymbol :=
  a.symbols.find? (·.name = name)

def referencesTo (a : ScopeAnalysis) (name : Text) : List Reference :=
  a.references.filter (·.symbol = name)

end ScopeAnalysis

/-! ## Symbols -/

def Declaration.definitions : Declaration Occurrence → List Definition
  | .function name _ _ => [⟨.function, name⟩]
  | .variables _ declarators => declarators.map fun d => ⟨.value, d.name⟩

def Statement.definitions : Statement Occurrence → List Definition
  | .declaration value | .exportDeclaration value => value.definitions
  | .importList specifiers _ => specifiers.map fun s => ⟨.imported, s.bound⟩
  | s => s.hoisted.map fun d => ⟨.value, d.name⟩

def declare : List ModuleSymbol → Definition → List ModuleSymbol
  | [], d => [⟨d.occurrence.name, d, []⟩]
  | s :: ss, d =>
    if s.name = d.occurrence.name then { s with others := s.others ++ [d] } :: ss
    else s :: declare ss d

def Program.symbols (program : Program Occurrence) : List ModuleSymbol :=
  (program.body.flatMap Statement.definitions).foldl declare []

/-! ## References -/

/-- A use in the code of a top-level declaration, or outside all of them. -/
structure OwnedUse where
  owner : Option Text
  use : Use

def Declaration.ownedUses (d : Declaration Occurrence) : List OwnedUse :=
  match d with
  | .function name _ _ => (d.uses []).map fun u => ⟨some name.name, u⟩
  | .variables _ declarators =>
    declarators.flatMap fun d =>
      (Expression.usesOption d.init []).map fun u => ⟨some d.name.name, u⟩

/-- The uses of a module item. The names in a list of exports of this module are uses too. -/
def Statement.ownedUses (s : Statement Occurrence) : List OwnedUse :=
  match s with
  | .declaration value | .exportDeclaration value => value.ownedUses
  | .exportList specifiers none => specifiers.map fun s => ⟨none, s.bound, []⟩
  | _ => (s.uses []).map fun u => ⟨none, u⟩

def Program.ownedUses (program : Program Occurrence) : List OwnedUse :=
  program.body.flatMap Statement.ownedUses

def OwnedUse.reference? (names : List Text) (u : OwnedUse) : Option Reference :=
  if u.use.isLocal || !names.contains u.use.name then none
  else some ⟨u.use.occurrence, u.owner, u.use.scopes.flatten⟩

/-- The name that a use leaves open, if no scope binds it. -/
def OwnedUse.global? (names : List Text) (u : OwnedUse) : Option Text :=
  if u.use.isLocal || names.contains u.use.name then none else some u.use.name

def Program.analyze (program : Program Occurrence) : ScopeAnalysis :=
  let symbols := program.symbols
  let names := symbols.map ModuleSymbol.name
  let uses := program.ownedUses
  { symbols
    references := uses.filterMap (OwnedUse.reference? names)
    globals := Text.nameSet (uses.filterMap (OwnedUse.global? names)) }

end LibraryDescriptor
