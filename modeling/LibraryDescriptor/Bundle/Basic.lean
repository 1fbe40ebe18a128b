import LibraryDescriptor.Disk.Basic
import LibraryDescriptor.Printer.Basic
import LibraryDescriptor.Scope.Analysis
import LibraryDescriptor.Token.Fault

/-!
# Modules of a bundle

* `Plugin` — tables that find modules before the disk is asked. What a specifier means may depend on
  the importer (`Route`).
* `Origin` — the declaration that an import or an export finally means.
* `SourceModule` — a module with the modules that its statements name.
* `BundleError` — why modules cannot be made into one.
-/

namespace LibraryDescriptor

/-- The identity of a module, usually the path of its file. -/
abbrev ModuleId := Text

/-- The importers that something holds for: all of them, or one. The entry is imported by none. -/
inductive Importers where
  | all
  | only (importer : Option ModuleId)

def Importers.has : Importers → Option ModuleId → Bool
  | .all, _ => true
  | .only importer, asked => importer = asked

/-- The module that a specifier means to some importers. -/
structure Route where
  specifier : Text
  importers : Importers
  target : ModuleId

def Route.fits (r : Route) (specifier : Text) (importer : Option ModuleId) : Bool :=
  r.specifier = specifier && r.importers.has importer

/-- Tables that find modules. A plugin may leave out either of them. -/
structure Plugin where
  name : Text
  /-- The modules that specifiers mean; of several routes that fit, the first holds. -/
  resolve : Option (List Route)
  /-- The texts of modules. -/
  load : Option (List (ModuleId × Text))

def Plugin.size (p : Plugin) : Nat :=
  (p.resolve.map List.length).getD 0 + (p.load.map List.length).getD 0

/-- A question to a plugin, with its answer. -/
inductive HookCall where
  | resolve (plugin specifier : Text) (importer : Option ModuleId) (result : Option ModuleId)
  | load (plugin : Text) (id : ModuleId) (found : Bool)
  deriving DecidableEq

/-- A declaration: the module it is in, and its name there. -/
structure Origin where
  id : ModuleId
  name : Text
  deriving DecidableEq

/-- A top-level statement, and the module that it imports or exports from. -/
structure ModuleItem where
  statement : Statement Occurrence
  source : Option ModuleId

/-- A module that was loaded. -/
structure SourceModule where
  id : ModuleId
  items : List ModuleItem
  analysis : ScopeAnalysis

/-- Why modules cannot be made into one. -/
inductive BundleError where
  /-- A specifier is not a path, and no plugin knows it. -/
  | bareSpecifier (specifier : Text) (importer : ModuleId)
  | unreadable (id : ModuleId) (cause : ReadError)
  | invalid (id : ModuleId) (cause : SourceError)
  /-- A module needs itself. -/
  | circular (id : ModuleId)
  /-- A module lacks an export. -/
  | notExported (name : Text) (source importer : ModuleId)
  /-- A module exports what it does not declare. -/
  | undeclared (id : ModuleId) (name : Text)
  /-- A module names one that was not loaded. -/
  | notLoaded (id : ModuleId)
  /-- A declaration has no name in the bundle. -/
  | unnamed (origin : Origin)
  /-- A tree has no source text. -/
  | unprintable (cause : PrintError)
  /-- The chain of imports has no end. -/
  | endless
  deriving DecidableEq

open Text (inQuotes) in
def BundleError.message : BundleError → Text
  | .bareSpecifier specifier importer =>
    .join ["Cannot resolve bare module specifier ", inQuotes specifier, " imported by ",
      inQuotes importer]
  | .unreadable id (.file cause) =>
    .join ["Cannot read module ", inQuotes id, ": ", cause.message (Path.tidy id)]
  | .unreadable id _ => .join ["Cannot read module ", inQuotes id]
  | .invalid id cause => .join [id, ": ", cause.message]
  | .circular id => .join ["Circular import detected involving ", inQuotes id]
  | .notExported name source importer =>
    .join [inQuotes name, " is not exported by ", inQuotes source, " (imported by ",
      inQuotes importer, ")"]
  | .undeclared id name => .join [inQuotes id, " exports ", inQuotes name,
      ", which it does not declare"]
  | .notLoaded id => .join ["Module ", inQuotes id, " was not loaded"]
  | .unnamed origin => .join [inQuotes origin.name, " of ", inQuotes origin.id, " has no name"]
  | .unprintable _ => "The bundle has no source text"
  | .endless => "The imports have no end"

end LibraryDescriptor
