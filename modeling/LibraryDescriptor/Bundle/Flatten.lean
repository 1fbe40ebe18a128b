import LibraryDescriptor.Bundle.FinalName
import LibraryDescriptor.Bundle.Load

/-!
# Bundles

A bundle is the program of all modules in order. Imports are gone; exports are left in the entry
only, where exports from other modules have become exports of the bundle.

* `LinkedModule.renaming` — the new names of the occurrences in a module.
* `LinkedModule.statements` — what is left of a module in the bundle.
* `Environment.bundle` — the bundle of an entry.
-/

namespace LibraryDescriptor

/-! ## New names -/

def FinalNames.find (names : FinalNames) (origin : Origin) : Except BundleError Text :=
  match names.get? origin with
  | some name => .ok name
  | none => .error (.unnamed origin)

def LinkedModule.finalName (m : LinkedModule) (names : FinalNames) (name : Text) :
    Except BundleError Text :=
  match m.origin? name with
  | some origin => names.find origin
  | none => .error (.undeclared m.id name)

def LinkedModule.symbolRenaming (m : LinkedModule) (names : FinalNames) (s : ModuleSymbol) :
    Except BundleError Renaming :=
  if s.kind = .imported then .ok []
  else do
    let name ← names.find ⟨m.id, s.name⟩
    return s.definitions.filterMap fun d => d.occurrence.site.map (·, name)

def LinkedModule.referenceRenaming (m : LinkedModule) (names : FinalNames) (r : Reference) :
    Except BundleError Renaming := do
  let name ← m.finalName names r.symbol
  return (r.occurrence.site.map (·, name)).toList

def LinkedModule.renaming (m : LinkedModule) (names : FinalNames) :
    Except BundleError Renaming := do
  let definitions ← m.module.analysis.symbols.mapM (m.symbolRenaming names)
  let references ← m.module.analysis.references.mapM (m.referenceRenaming names)
  return definitions.flatten ++ references.flatten

/-! ## Statements -/

def LinkedModule.localExport (m : LinkedModule) (names : FinalNames)
    (s : ExportSpecifier Occurrence) : Except BundleError (ExportSpecifier Occurrence) :=
  match m.exports.get? s.exported.name with
  | some origin => do return ⟨⟨← names.find origin, none⟩, s.exported⟩
  | none => .error (.undeclared m.id s.exported.name)

def LinkedModule.emit (m : LinkedModule) (names : FinalNames) (isEntry : Bool) :
    Statement Occurrence → Except BundleError (List (Statement Occurrence))
  | .importList _ _ => .ok []
  | .exportDeclaration value =>
    .ok [if isEntry then .exportDeclaration value else .declaration value]
  | .exportList specifiers (some _) =>
    if isEntry then do
      return [.exportList (← specifiers.mapM (m.localExport names)) none]
    else .ok []
  | .exportList specifiers none =>
    .ok (if isEntry then [.exportList specifiers none] else [])
  | s => .ok [s]

def LinkedModule.statements (m : LinkedModule) (names : FinalNames) (isEntry : Bool) :
    Except BundleError (List (Statement Occurrence)) := do
  let fresh ← m.renaming names
  let renamed := m.module.items.map fun item => item.statement.map (·.rename fresh)
  return (← renamed.mapM (m.emit names isEntry)).flatten

def flatten (modules : List LinkedModule) (entry : ModuleId) :
    Except BundleError (Program Occurrence) := do
  let names := FinalNames.assign modules entry
  let parts ← modules.mapM fun m => m.statements names (m.id = entry)
  return ⟨parts.flatten⟩

/-! ## Bundles -/

structure Bundle where
  entry : ModuleId
  modules : List SourceModule
  program : Program Occurrence
  /-- The text of the program. -/
  code : Text

def Bundle.make (entry : ModuleId) (modules : List SourceModule) : Except BundleError Bundle := do
  let program ← flatten (← linkAll modules) entry
  let code ← program.erase.print.mapError .unprintable
  return ⟨entry, modules, program, code⟩

def Environment.bundle (env : Environment) (entry : Text) :
    Except BundleError Bundle × LoadState :=
  match (env.loadEntry entry).run.run LoadState.initial with
  | (.error e, state) => (.error e, state)
  | (.ok id, state) => (Bundle.make id state.modules, state)

end LibraryDescriptor
