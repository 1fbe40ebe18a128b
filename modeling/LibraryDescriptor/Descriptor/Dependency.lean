import LibraryDescriptor.Symbol.Table

/-!
# Dependencies

A symbol depends on the other symbols that its code refers to.

* `DependencyGraph` — for each key, the keys it depends on, in the order of the first references.
* `ScopeAnalysis.dependencies` — the graph of a module.
-/

namespace LibraryDescriptor

/-- For each key, the keys it depends on. -/
abbrev DependencyGraph := List (Text × List Text)

namespace DependencyGraph

def dependenciesOf (g : DependencyGraph) (key : Text) : List Text := (g.lookup key).getD []

def edgeCount (g : DependencyGraph) : Nat := g.foldl (fun n (_, keys) => n + keys.length) 0

end DependencyGraph

/-- The dependency that a reference makes, as a pair of symbols. A symbol does not depend on itself,
and a reference outside all declarations makes none. -/
def Reference.dependency? (table : SymbolTable) (r : Reference) :
    Except CompileError (Option (ResolvedSymbol × ResolvedSymbol)) :=
  match r.owner with
  | none => .ok none
  | some owner =>
    match table.get? owner, table.get? r.symbol with
    | none, _ => .error (.inconsistency (.notInTable owner))
    | some _, none => .error (.inconsistency (.notInTable r.symbol))
    | some source, some target =>
      .ok (if owner = r.symbol then none else some (source, target))

/-- The dependencies of a module. Every symbol has its place in the graph. -/
def ScopeAnalysis.dependencies (a : ScopeAnalysis) (table : SymbolTable) :
    Except CompileError DependencyGraph := do
  let found ← a.references.mapM (Reference.dependency? table)
  let pairs := found.filterMap id
  return table.symbols.map fun s =>
    (s.key, ((pairs.filter (·.1.key = s.key)).map (·.2.key)).eraseDups)

end LibraryDescriptor
