import LibraryDescriptor.Bundle.Basic

/-!
# Linking modules

Linking traces every import and every export of a module to the declaration it means. Modules are
linked in order, so the exports of the modules that a module names are known.

* `LinkedModule` — a module with the origins of its imports and exports.
* `LinkedModule.origin?` — the declaration that a top-level name means.
* `linkAll` — the linked modules.
-/

namespace LibraryDescriptor

/-- The origins of some names; of several for one name, the last holds. -/
abbrev Origins := List (Text × Origin)

namespace Origins

def get? (origins : Origins) (name : Text) : Option Origin := origins.reverse.lookup name

end Origins

/-- A module whose imports and exports are known. -/
structure LinkedModule where
  module : SourceModule
  /-- The origins of imported names. -/
  imports : Origins
  /-- The origins of exported names. -/
  exports : Origins

/-- The declaration that a top-level name of a module means, given the origins of its imports. -/
def SourceModule.origin? (m : SourceModule) (imports : Origins) (name : Text) : Option Origin :=
  match imports.get? name, m.analysis.symbol? name with
  | some origin, _ => some origin
  | none, some s => if s.kind = .imported then none else some ⟨m.id, name⟩
  | none, none => none

namespace LinkedModule

def id (m : LinkedModule) : ModuleId := m.module.id

/-- The declaration that a top-level name means. -/
def origin? (m : LinkedModule) (name : Text) : Option Origin := m.module.origin? m.imports name

end LinkedModule

def exportedOrigin (linked : List LinkedModule) (source : Option ModuleId) (importer : ModuleId)
    (name : Text) : Except BundleError Origin :=
  let id := source.getD []
  match linked.find? (·.id = id) with
  | none => .error (.notLoaded id)
  | some m =>
    match m.exports.get? name with
    | some origin => .ok origin
    | none => .error (.notExported name m.id importer)

def ModuleItem.imports (linked : List LinkedModule) (importer : ModuleId) (item : ModuleItem) :
    Except BundleError Origins :=
  match item.statement with
  | .importList specifiers _ =>
    specifiers.mapM fun s => do
      return (s.bound.name, ← exportedOrigin linked item.source importer s.imported.name)
  | _ => .ok []

def ModuleItem.exports (linked : List LinkedModule) (m : SourceModule) (imports : Origins)
    (item : ModuleItem) : Except BundleError Origins :=
  match item.statement with
  | .exportDeclaration value => .ok (value.names.map fun o => (o.name, ⟨m.id, o.name⟩))
  | .exportList specifiers (some _) =>
    specifiers.mapM fun s => do
      return (s.exported.name, ← exportedOrigin linked item.source m.id s.bound.name)
  | .exportList specifiers none =>
    specifiers.mapM fun s =>
      match m.origin? imports s.bound.name with
      | some origin => .ok (s.exported.name, origin)
      | none => .error (.undeclared m.id s.bound.name)
  | _ => .ok []

def SourceModule.link (linked : List LinkedModule) (m : SourceModule) :
    Except BundleError LinkedModule := do
  let imports ← m.items.mapM (ModuleItem.imports linked m.id)
  let exports ← m.items.mapM (ModuleItem.exports linked m imports.flatten)
  return ⟨m, imports.flatten, exports.flatten⟩

/-- Modules with the origins of their imports and exports. -/
def linkAll (modules : List SourceModule) : Except BundleError (List LinkedModule) :=
  modules.foldlM (fun linked m => do return linked ++ [← m.link linked]) []

end LibraryDescriptor
