import LibraryDescriptor.Options
import LibraryDescriptor.Scope.Analysis
import LibraryDescriptor.Symbol.Export

/-!
# Symbol tables

Each symbol of a module gets two names in the descriptor: the key of its entry, and the name by
which code refers to it. Exported symbols are named after their exports; private ones get the prefix
of the module, so that the descriptors of several modules can share one table.

* `Options.names` — the two names of a symbol.
* `SymbolTable` — the symbols with their names.
* `ScopeAnalysis.resolve` — the table of a module, or why the names clash.
* `SymbolTable.renaming` — the new names of all occurrences that mean symbols.
-/

namespace LibraryDescriptor

structure SymbolNames where
  key : Text
  reference : Text
  deriving DecidableEq

/-- The names of a symbol, private unless it is exported. -/
def Options.names (options : Options) (name : Text) (exported : Option Text) : SymbolNames :=
  match options.style, exported with
  | .emscripten, some exported => ⟨exported, .join ["_", exported]⟩
  | .emscripten, none =>
    let full := Text.join [options.localPrefix, "_", name]
    ⟨.join ["$", full], full⟩
  | .uniform, some exported => ⟨exported, exported⟩
  | .uniform, none =>
    let full := Text.join ["_", options.localPrefix, "_", name]
    ⟨full, full⟩

/-- Whether other modules can see a symbol. -/
inductive Visibility where
  | exported | internal
  deriving DecidableEq

structure ResolvedSymbol where
  /-- The name in the module. -/
  name : Text
  key : Text
  reference : Text
  visibility : Visibility
  kind : SymbolKind
  deriving DecidableEq

/-- The symbols of a module, in the order of their declarations. -/
structure SymbolTable where
  symbols : List ResolvedSymbol
  deriving DecidableEq

namespace SymbolTable

def get? (t : SymbolTable) (name : Text) : Option ResolvedSymbol :=
  t.symbols.find? (·.name = name)

def byKey? (t : SymbolTable) (key : Text) : Option ResolvedSymbol :=
  t.symbols.find? (·.key = key)

def empty : SymbolTable := ⟨[]⟩

end SymbolTable

/-! ## Resolution -/

/-- A symbol with its names. A symbol of another module has none, and neither has one that is
declared repeatedly. -/
def ModuleSymbol.resolve (options : Options) (exports : ExportMap) (s : ModuleSymbol) :
    Except CompileError ResolvedSymbol :=
  if s.kind = .imported then .error (.inconsistency (.importBinding s.name))
  else if s.definitions.length > 1 then
    .error (.collision (.declaredRepeatedly s.name s.definitions.length))
  else
    let exported := exports.exported? s.name
    let names := options.names s.name exported
    .ok ⟨s.name, names.key, names.reference,
      if exported.isSome then .exported else .internal, s.kind⟩

/-- Fails if the names of a symbol mean one of the symbols before it, or a global. -/
def ResolvedSymbol.checkFresh (globals : List Text) (earlier : List ResolvedSymbol)
    (s : ResolvedSymbol) : Except CompileError Unit :=
  match earlier.find? (·.key = s.key), earlier.find? (·.reference = s.reference) with
  | some other, _ => .error (.collision (.keyShared other.name s.name s.key))
  | none, some other => .error (.collision (.referenceShared other.name s.name s.reference))
  | none, none =>
    if globals.contains s.reference then
      .error (.collision (.referenceGlobal s.name s.reference))
    else .ok ()

/-- Fails for the first symbol whose names are not free. -/
def checkDistinct (globals : List Text) (earlier : List ResolvedSymbol) :
    List ResolvedSymbol → Except CompileError Unit
  | [] => .ok ()
  | s :: ss => do
    s.checkFresh globals earlier
    checkDistinct globals (earlier ++ [s]) ss

/-- Fails for a reference that is to no symbol, or that would mean another binding under its new
name. -/
def Reference.check (table : SymbolTable) (r : Reference) : Except CompileError Unit :=
  match table.get? r.symbol with
  | none => .error (.inconsistency (.unknownTarget r.symbol))
  | some target =>
    if r.shadowed.contains target.reference then
      .error (.collision (.captured r.symbol r.owner target.reference))
    else .ok ()

/-- Fails for the first export of a name that is no symbol. -/
def ScopeAnalysis.checkExports (a : ScopeAnalysis) (exports : ExportMap) :
    Except CompileError Unit :=
  exports.forM fun (name, _) =>
    if (a.symbol? name).isSome then .ok () else .error (.unresolvedExport name)

def ScopeAnalysis.resolve (a : ScopeAnalysis) (exports : ExportMap) (options : Options) :
    Except CompileError SymbolTable := do
  a.checkExports exports
  let table : SymbolTable := ⟨← a.symbols.mapM (ModuleSymbol.resolve options exports)⟩
  checkDistinct a.globals [] table.symbols
  a.references.forM (Reference.check table)
  return table

/-! ## New names -/

def ModuleSymbol.renaming (table : SymbolTable) (s : ModuleSymbol) : Renaming :=
  s.definitions.filterMap fun d => do
    let target ← table.get? s.name
    return (← d.occurrence.site, target.key)

def Reference.renaming? (table : SymbolTable) (r : Reference) : Option (Site × Text) := do
  let target ← table.get? r.symbol
  return (← r.occurrence.site, target.reference)

/-- The new names of all occurrences that mean symbols: declarations get the keys, and uses the
names for references. -/
def SymbolTable.renaming (table : SymbolTable) (a : ScopeAnalysis) : Renaming :=
  a.symbols.flatMap (ModuleSymbol.renaming table) ++
    a.references.filterMap (Reference.renaming? table)

end LibraryDescriptor
